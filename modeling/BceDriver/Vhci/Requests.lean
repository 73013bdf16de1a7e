import BceDriver.Lib.History
import BceDriver.Vhci.PauseResume

/-!
# Transfer requests

The device asks for data with TRANSFER_REQUEST messages. One is taken by the
first linked URB, either at once or from the deferred messages, and answered
with one element on `sq_out`. All of this is about every state a queue can be
in, its lists and URBs in any condition.

- `TookRequest`: what taking a request does to `sq_out`.
- `DeliverOutcome`, `EventOutcome`: what the two routes of a message do.
- `RequestRecord`: the requests that arrived and those that were taken.
- `transfer_requests_taken`: requests are taken in the order they arrived, none
  is lost, and each has an element exactly when `sq_out` had a slot for it.
-/

namespace BceDriver

open FaultState

/-! ## One message -/

/-- `sq_out` has a free slot. -/
def OutSlot (q : BceVhciTransferQueue) : Prop :=
  ∃ t ∈ q.sqs .toDevice, 0 < t.sq.availableCommands

instance (q : BceVhciTransferQueue) : Decidable (OutSlot q) :=
  inferInstanceAs (Decidable (∃ t ∈ q.sqs .toDevice, _))

/-- The elements put on `sq_out` since `q`. -/
def newOutElements (q q' : BceVhciTransferQueue) : List TransferElement :=
  match q.sqs .toDevice, q'.sqs .toDevice with
  | some t, some t' => t'.submitted.drop t.submitted.length
  | _, _ => []

/-- The `bce_vhci_urb` of the first linked URB. -/
def headUrb (q : BceVhciTransferQueue) : Option Nat :=
  q.urbList.head?.bind fun u => (q.urbs u).hcpriv

/-- The first URB took a request: it put one element on `sq_out`, if there was a
slot. -/
structure TookRequest (q q' : BceVhciTransferQueue) : Prop where
  accepts : ∃ v ∈ q.headVurb, v.AcceptsRequest
  slot : OutSlot q → ∃ e, newOutElements q q' = [e] ∧ headUrb q = some e.owner
  full : ¬OutSlot q → newOutElements q q' = []

section Message

variable {q q' : BceVhciTransferQueue} {urb : Nat} {v : BceVhciUrb} {msg : BceVhciMessage} {r : Int}

/-- A message for a URB leaves the deferred messages alone. -/
theorem UpdateEffect.evq (h : UpdateEffect q urb v msg r q') : q'.evq = q.evq := by
  cases h with
  | outSettled => exact settle_evq ..
  | settled => exact settle_evq ..
  | _ => rfl

theorem newOutElements_put {t : TransferSq} (e : TransferElement)
    (ht : q.sqs .toDevice = some t) (ht' : q'.sqs .toDevice = some (t.put e)) :
    newOutElements q q' = [e] := by
  simp [newOutElements, ht, ht', TransferSq.put_submitted]

theorem newOutElements_of_sqs (h : q'.sqs = q.sqs) : newOutElements q q' = [] := by
  unfold newOutElements
  rw [h]
  cases q.sqs .toDevice with
  | some t => exact List.drop_length
  | none => rfl

/-- A request that is not deferred is taken. -/
theorem UpdateEffect.tookRequest (h : UpdateEffect q urb v msg r q')
    (hmsg : msg.cmd = BCE_VHCI_CMD_TRANSFER_REQUEST) (hr : r ≠ -EAGAIN)
    (hhead : q.headVurb = some v) (hurb : headUrb q = some urb) : TookRequest q q' := by
  have hsent : ∀ {t : TransferSq} (e : TransferElement), v.AcceptsRequest →
      q.sqs .toDevice = some t → 0 < t.sq.availableCommands →
      q'.sqs .toDevice = some (t.put e) → e.owner = urb → TookRequest q q' := by
    intro t e hacc ht hpos ht' howner
    refine ⟨⟨v, hhead, hacc⟩, fun _ => ⟨e, newOutElements_put e ht ht', ?_⟩, fun hfull => ?_⟩
    · rw [hurb, howner]
    · exact absurd ⟨t, ht, hpos⟩ hfull
  cases h with
  | deferred => exact absurd rfl hr
  | @refused _ t _ hacc _ ht hle =>
    refine ⟨⟨v, hhead, hacc⟩, fun hslot => ?_, fun _ => newOutElements_of_sqs rfl⟩
    obtain ⟨t', ht', hpos⟩ := hslot
    obtain rfl := Option.some.inj (ht.symm.trans ht')
    omega
  | setup hc hs _ ht hpos =>
    exact hsent (setupElement q urb v) (.inr ⟨hc, hs⟩) ht hpos (by simp) rfl
  | out hs _ ht hpos _ =>
    exact hsent (outElement q urb v msg.param2) (.inl hs) ht hpos (by simp) rfl
  | outSettled _ hs _ ht hpos _ =>
    refine hsent (outElement q urb v msg.param2) (.inl hs) ht hpos ?_ rfl
    rw [settle_sqs]
    simp
  | status _ hstatus => rw [hmsg] at hstatus; cases hstatus
  | settled _ hstatus => rw [hmsg] at hstatus; cases hstatus

/-- The outcomes of a round of `bce_vhci_transfer_queue_deliver_pending`, for any
queue. -/
inductive DeliverOutcome (q : BceVhciTransferQueue) : BceVhciTransferQueue → Prop where
  | kept {q' : BceVhciTransferQueue} : q'.evq = q.evq → DeliverOutcome q q'
  | took {msg : BceVhciMessage} {msgs : List BceVhciMessage} {q' : BceVhciTransferQueue} :
      q.evq = msg :: msgs → q'.evq = msgs →
      (msg.cmd = BCE_VHCI_CMD_TRANSFER_REQUEST → TookRequest q q') → DeliverOutcome q q'

/-- The outcomes of `bce_vhci_transfer_queue_event` after the delivery, for any queue. -/
inductive EventOutcome (q : BceVhciTransferQueue) (msg : BceVhciMessage) :
    BceVhciTransferQueue → Prop where
  | deferred {q' : BceVhciTransferQueue} : q'.evq = q.evq ++ [msg] → EventOutcome q msg q'
  | took {q' : BceVhciTransferQueue} : q'.evq = q.evq →
      (msg.cmd = BCE_VHCI_CMD_TRANSFER_REQUEST → q.evq = [] ∧ TookRequest q q') →
      EventOutcome q msg q'

/-- A message for a URB, whether or not there is a `bce_vhci_urb` at `urb`. -/
theorem urbUpdate_any (q : BceVhciTransferQueue) (urb : Nat) (msg : BceVhciMessage) :
    wp (bceVhciUrbUpdate urb msg) (fun _ => True)
      (fun r q' => ∃ v, q.vurbs urb = some v ∧ UpdateEffect q urb v msg r q') q := by
  cases hv : q.vurbs urb with
  | none =>
    unfold bceVhciUrbUpdate
    rw [wp_bind, wp_readVurb, hv]
    exact trivial
  | some v =>
    exact wp_imp (urbUpdate_spec hv fun _ _ _ => trivial) fun r q' h => ⟨v, rfl, h⟩

/-- **Delivering to any queue** keeps what updates of a URB keep. -/
theorem wp_deliverPending_any {K : BceVhciTransferQueue → Prop}
    (hupdate : ∀ {q urb v msg r q'}, K q → UpdateEffect q urb v msg r q' → K q')
    (hevq : ∀ {q} evq, K q → K { q with evq := evq }) (hq : K q) :
    wp bceVhciTransferQueueDeliverPending (fun _ => True) (fun _ q' => K q') q := by
  refine wp_deliverPending (fun q hq => ?_) hq
  unfold bceVhciTransferQueueDeliverPendingRound
  rw [wp_bind, wp_get]
  cases q.urbList with
  | nil => exact wp_pure.mpr hq
  | cons u us =>
    cases q.evq with
    | nil => exact wp_pure.mpr hq
    | cons msg msgs =>
      rw [wp_bind, wp_readHcpriv]
      cases (q.urbs u).hcpriv with
      | none => exact trivial
      | some urb =>
        dsimp only
        rw [wp_bind]
        refine wp_imp (urbUpdate_any q urb msg) fun r q' h => ?_
        obtain ⟨v, -, h⟩ := h
        rw [wp_ite]
        refine ⟨fun _ => wp_pure.mpr (hupdate hq h), fun _ => ?_⟩
        rw [wp_bind, wp_modify, wp_pure]
        exact hevq _ (hupdate hq h)

theorem deliverRound_outcome (q : BceVhciTransferQueue) :
    wp bceVhciTransferQueueDeliverPendingRound (fun _ => True)
      (fun _ q' => DeliverOutcome q q') q := by
  unfold bceVhciTransferQueueDeliverPendingRound
  rw [wp_bind, wp_get]
  cases hl : q.urbList with
  | nil => exact wp_pure.mpr (.kept rfl)
  | cons u us =>
    cases he : q.evq with
    | nil => exact wp_pure.mpr (.kept rfl)
    | cons msg msgs =>
      rw [wp_bind, wp_readHcpriv]
      cases hp : (q.urbs u).hcpriv with
      | none => exact trivial
      | some urb =>
        have hurb : headUrb q = some urb := by simp [headUrb, hl, hp]
        dsimp only
        rw [wp_bind]
        refine wp_imp (urbUpdate_any q urb msg) fun r q' h => ?_
        obtain ⟨v, hv, h⟩ := h
        have hhead : q.headVurb = some v := by simp [BceVhciTransferQueue.headVurb, hl, hp, hv]
        rw [wp_ite]
        refine ⟨fun _ => wp_pure.mpr (.kept h.evq), fun hr => ?_⟩
        rw [wp_bind, wp_modify, wp_pure]
        refine .took he ?_ fun hmsg => ?_
        · simp [h.evq, he]
        · have htook := h.tookRequest hmsg hr hhead hurb
          exact ⟨htook.accepts, htook.slot, htook.full⟩

theorem eventBody_outcome (q : BceVhciTransferQueue) (msg : BceVhciMessage) :
    wp (bceVhciTransferQueueEventBody msg) (fun _ => True)
      (fun _ q' => EventOutcome q msg q') q := by
  unfold bceVhciTransferQueueEventBody
  rw [wp_bind, wp_get, wp_ite]
  refine ⟨fun _ => .deferred rfl, fun hnot => ?_⟩
  cases hl : q.urbList with
  | nil => exact wp_pure.mpr (.took rfl fun hmsg => absurd ⟨hmsg, .inr hl⟩ hnot)
  | cons u us =>
    rw [wp_bind, wp_readHcpriv]
    cases hp : (q.urbs u).hcpriv with
    | none => exact trivial
    | some urb =>
      have hurb : headUrb q = some urb := by simp [headUrb, hl, hp]
      dsimp only
      rw [wp_bind]
      refine wp_imp (urbUpdate_any q urb msg) fun r q' h => ?_
      obtain ⟨v, hv, h⟩ := h
      have hhead : q.headVurb = some v := by simp [BceVhciTransferQueue.headVurb, hl, hp, hv]
      rw [wp_ite]
      refine ⟨fun _ => ?_, fun hr => wp_pure.mpr (.took h.evq fun hmsg => ?_)⟩
      · refine .deferred ?_
        dsimp only
        rw [h.evq]
      · have hevq : q.evq = [] := by
          by_contra hne
          exact hnot ⟨hmsg, .inl hne⟩
        exact ⟨hevq, h.tookRequest hmsg hr hhead hurb⟩

/-! ## What is not about messages -/

/-- A completion for a URB, whether or not there is a `bce_vhci_urb` at `urb`. -/
theorem urbTransferCompletion_evq (q : BceVhciTransferQueue) (urb : Nat) (c : BceSqCompletionData) :
    wp (bceVhciUrbTransferCompletion urb c) (fun _ => True) (fun _ q' => q'.evq = q.evq) q := by
  cases hv : q.vurbs urb with
  | none =>
    unfold bceVhciUrbTransferCompletion
    rw [wp_bind, wp_readVurb, hv]
    exact trivial
  | some v => exact wp_imp (urbTransferCompletion_spec hv fun _ _ => trivial) fun _ q' h => h.evq

theorem completionRound_evq (q : BceVhciTransferQueue) (d : DmaDataDirection) :
    wp (bceVhciTransferQueueCompletionRound d) (fun _ => True) (fun _ q' => q'.evq = q.evq) q := by
  unfold bceVhciTransferQueueCompletionRound
  rw [wp_bind, wp_nextTransferCompletion]
  cases ht : q.sqs d with
  | none => exact trivial
  | some t =>
    dsimp only
    cases hnext : bceNextCompletion t.sq with
    | none => exact wp_pure.mpr rfl
    | some p =>
      obtain ⟨c, sq⟩ := p
      dsimp only
      rw [wp_ite]
      refine ⟨fun _ => wp_pure.mpr rfl, fun _ => ?_⟩
      rw [wp_bind, wp_get]
      cases hl : (q.consume d t sq).urbList with
      | nil => exact wp_pure.mpr rfl
      | cons u us =>
        dsimp only
        rw [wp_bind, wp_readHcpriv]
        cases ((q.consume d t sq).urbs u).hcpriv with
        | none => exact trivial
        | some urb =>
          dsimp only
          rw [wp_bind]
          refine wp_imp (urbTransferCompletion_evq (q.consume d t sq) urb c) fun _ q₁ h => ?_
          rw [wp_bind, wp_notifyTransferSq]
          cases q₁.sqs d with
          | none => exact trivial
          | some t' => exact wp_pure.mpr h

theorem resumeUrb_evq (q : BceVhciTransferQueue) (u : Nat) :
    wp (bceVhciTransferQueueResumeUrb u) (fun _ => True) (fun _ q' => q'.evq = q.evq) q := by
  unfold bceVhciTransferQueueResumeUrb
  rw [wp_bind, wp_readHcpriv]
  cases (q.urbs u).hcpriv with
  | none => exact trivial
  | some urb =>
    dsimp only
    cases hv : q.vurbs urb with
    | none =>
      unfold bceVhciUrbResume
      rw [wp_bind, wp_readVurb, hv]
      exact trivial
    | some v => exact wp_imp (urbResume_spec hv fun _ _ => trivial) fun _ q' h => h.evq

theorem CreateEffect.evq {u : Nat} (h : CreateEffect q u r q') : q'.evq = q.evq := by
  cases h with
  | refused => rfl
  | active _ h => exact h.evq
  | failed _ _ h => exact h.evq
  | paused => rfl

end Message

/-! ## The requests of a run -/

/-- The requests among some messages. -/
def transferRequests (msgs : List BceVhciMessage) : List BceVhciMessage :=
  msgs.filter fun msg => msg.cmd = BCE_VHCI_CMD_TRANSFER_REQUEST

/-- The message the holder of `urb_lock` has in hand. -/
def LockOp.message : LockOp → Option BceVhciMessage
  | .event msg => some msg
  | _ => none

/-- The requests nobody has taken yet, oldest first. -/
def Endpoint.pendingRequests (s : Endpoint) : List BceVhciMessage :=
  transferRequests (s.q.evq ++ s.lock.filterMap LockOp.message)

/-- The message a round of the lock holder takes: the first deferred one if it
leaves the list, the one in hand if it is not put on the list. -/
def takenMessage (s s' : Endpoint) : Option BceVhciMessage :=
  match s.lock with
  | .deliver :: _ => if s'.q.evq.length < s.q.evq.length then s.q.evq.head? else none
  | .event msg :: _ =>
    if s'.fault = none ∧ s'.q.evq.length = s.q.evq.length then some msg else none
  | _ => none

/-- A request that was taken. -/
structure TakenRequest where
  msg : BceVhciMessage
  /-- the `bce_vhci_urb` of the first linked URB at the time -/
  urb : Option Nat
  /-- `sq_out` had a free slot -/
  slot : Bool
  /-- the elements put on `sq_out` when it was taken -/
  elements : List TransferElement
deriving DecidableEq

/-- The URB that took the request put an element on `sq_out` for it. -/
def TakenRequest.Answered (r : TakenRequest) : Prop :=
  ∃ e, r.elements = [e] ∧ r.urb = some e.owner

/-- The requests that arrived, and those that were taken, in order. -/
structure RequestRecord where
  arrived : List BceVhciMessage
  taken : List TakenRequest

def arrivedRequests : EndpointAction → List BceVhciMessage
  | .event msg => transferRequests [msg]
  | _ => []

def takenRequests (a : EndpointAction) (s s' : Endpoint) : List TakenRequest :=
  match a with
  | .lockStep =>
    (transferRequests (takenMessage s s').toList).map fun msg =>
      ⟨msg, headUrb s.q, decide (OutSlot s.q), newOutElements s.q s'.q⟩
  | _ => []

/-- Runs from any state, with the requests that were deferred in it counted as
the first to arrive. -/
def requestSystem : StepSystem (Endpoint × RequestRecord) EndpointAction :=
  StepSystem.withHistory ⟨fun _ => True, Endpoint.step⟩ (fun s => ⟨s.pendingRequests, []⟩)
    fun a s s' h => ⟨h.arrived ++ arrivedRequests a, h.taken ++ takenRequests a s s'⟩

/-- No work item runs: nothing is paused or reset. -/
def NoWork : EndpointAction → Prop
  | .workStep _ _ => False
  | _ => True

/-- If a URB is about to take a request, `sq_out` has a slot. -/
def TakesWithSlot : LockOp → BceVhciTransferQueue → Prop
  | .deliver, q => ∀ msg ∈ q.evq.head?, msg.cmd = BCE_VHCI_CMD_TRANSFER_REQUEST →
      ∀ v ∈ q.headVurb, v.AcceptsRequest → OutSlot q
  | .event msg, q => msg.cmd = BCE_VHCI_CMD_TRANSFER_REQUEST → q.evq = [] →
      ∀ v ∈ q.headVurb, v.AcceptsRequest → OutSlot q
  | _, _ => True

/-- A step moves requests from those pending to those taken. -/
structure RequestStep (a : EndpointAction) (s s' : Endpoint) : Prop where
  order : s.pendingRequests ++ arrivedRequests a =
    (takenRequests a s s').map TakenRequest.msg ++ s'.pendingRequests
  answered : ∀ r ∈ takenRequests a s s', r.Answered ↔ r.slot = true
  slot : AtLockStep TakesWithSlot a s → ∀ r ∈ takenRequests a s s', r.slot = true

section Steps

variable {s s' : Endpoint} {a : EndpointAction}

theorem transferRequests_append (msgs msgs' : List BceVhciMessage) :
    transferRequests (msgs ++ msgs') = transferRequests msgs ++ transferRequests msgs' :=
  List.filter_append ..

/-- Nothing arrives and nothing is taken. -/
theorem RequestStep.of_eq (ha : arrivedRequests a = []) (ht : takenRequests a s s' = [])
    (hevq : s'.q.evq = s.q.evq)
    (hlock : s'.lock.filterMap LockOp.message = s.lock.filterMap LockOp.message) :
    RequestStep a s s' := by
  refine ⟨?_, by simp [ht], by simp [ht]⟩
  rw [ha, ht, List.append_nil, List.map_nil, List.nil_append, Endpoint.pendingRequests,
    Endpoint.pendingRequests, hevq, hlock]

/-- A taken request is answered if there is a slot, and only then. -/
theorem TookRequest.answered {q q' : BceVhciTransferQueue} (h : TookRequest q q')
    (msg : BceVhciMessage) :
    TakenRequest.Answered ⟨msg, headUrb q, decide (OutSlot q), newOutElements q q'⟩ ↔
      decide (OutSlot q) = true := by
  rw [decide_eq_true_iff]
  constructor
  · rintro ⟨e, he, -⟩
    by_contra hfull
    rw [h.full hfull] at he
    cases he
  · exact h.slot

/-- The holder of the lock takes a message. -/
theorem RequestStep.of_taken (msg : BceVhciMessage) (hmsg : takenMessage s s' = some msg)
    (hpending : s.pendingRequests = transferRequests [msg] ++ s'.pendingRequests)
    (htook : msg.cmd = BCE_VHCI_CMD_TRANSFER_REQUEST → TookRequest s.q s'.q)
    (hslot : AtLockStep TakesWithSlot .lockStep s → msg.cmd = BCE_VHCI_CMD_TRANSFER_REQUEST →
      ∀ v ∈ s.q.headVurb, v.AcceptsRequest → OutSlot s.q) :
    RequestStep .lockStep s s' := by
  have htaken : takenRequests .lockStep s s' = (transferRequests [msg]).map fun msg =>
      ⟨msg, headUrb s.q, decide (OutSlot s.q), newOutElements s.q s'.q⟩ := by
    unfold takenRequests
    rw [hmsg, Option.toList_some]
  have hcmd : ∀ msg' ∈ transferRequests [msg],
      msg' = msg ∧ msg.cmd = BCE_VHCI_CMD_TRANSFER_REQUEST := by
    intro msg' hmem
    obtain ⟨hmem, hcmd⟩ := List.mem_filter.mp hmem
    obtain rfl := List.mem_singleton.mp hmem
    exact ⟨rfl, by simpa using hcmd⟩
  refine ⟨?_, fun r hr => ?_, fun hguard r hr => ?_⟩
  · rw [htaken, List.map_map, hpending]
    simp [arrivedRequests, Function.comp_def]
  · rw [htaken] at hr
    obtain ⟨msg', hmem, rfl⟩ := List.mem_map.mp hr
    exact (htook (hcmd msg' hmem).2).answered msg'
  · rw [htaken] at hr
    obtain ⟨msg', hmem, rfl⟩ := List.mem_map.mp hr
    obtain ⟨v, hv, hacc⟩ := (htook (hcmd msg' hmem).2).accepts
    exact decide_eq_true (hslot hguard (hcmd msg' hmem).2 v hv hacc)

theorem lockStep_requests (hf : s.fault = none) (hstep : s.lockStep = some s') :
    RequestStep .lockStep s s' := by
  cases lockStep_branch hstep with
  | @deliver ops hops =>
    have htaken : ∀ t : Endpoint, takenMessage s t =
        if t.q.evq.length < s.q.evq.length then s.q.evq.head? else none := by
      intro t
      unfold takenMessage
      rw [hops]
    have hkept : ∀ t : Endpoint, t.q.evq = s.q.evq → takenRequests .lockStep s t = [] := by
      intro t heq
      unfold takenRequests
      rw [htaken, if_neg (by rw [heq]; exact lt_irrefl _)]
      rfl
    refine Endpoint.exec_wp (deliverRound_outcome s.q) (fun more q' hout => ?_)
      fun f _ => .of_eq rfl (hkept _ rfl) rfl rfl
    have hlock : (if more then .deliver :: ops else ops).filterMap LockOp.message =
        s.lock.filterMap LockOp.message := by
      rw [hops]
      split
      · rfl
      · rfl
    cases hout with
    | kept heq => exact .of_eq rfl (hkept _ heq) heq hlock
    | @took msg msgs _ hevq hevq' htook =>
      refine .of_taken msg ?_ ?_ htook fun hguard hmsg => ?_
      · rw [htaken]
        dsimp only
        rw [hevq, hevq', if_pos (by simp)]
        rfl
      · unfold Endpoint.pendingRequests
        dsimp only
        rw [hlock, hevq, hevq', ← transferRequests_append]
        rfl
      · exact hguard.head hops msg (by simp [hevq]) hmsg
  | @event msg ops hops =>
    have htaken : ∀ t : Endpoint, takenMessage s t =
        if t.fault = none ∧ t.q.evq.length = s.q.evq.length then some msg else none := by
      intro t
      unfold takenMessage
      rw [hops]
    refine Endpoint.exec_wp (eventBody_outcome s.q msg) (fun _ q' hout => ?_) fun f _ => ?_
    · cases hout with
      | deferred hevq =>
        have hnone : takenRequests .lockStep s { s with q := q', lock := ops } = [] := by
          unfold takenRequests
          rw [htaken, if_neg (by simp [hevq])]
          rfl
        refine ⟨?_, by simp [hnone], by simp [hnone]⟩
        rw [hnone]
        simp [Endpoint.pendingRequests, arrivedRequests, hevq, hops, LockOp.message]
      | took hevq htook =>
        refine .of_taken msg ?_ ?_ (fun hmsg => (htook hmsg).2) fun hguard hmsg => ?_
        · rw [htaken, if_pos ⟨hf, by rw [hevq]⟩]
        · by_cases hmsg : msg.cmd = BCE_VHCI_CMD_TRANSFER_REQUEST
          · simp [Endpoint.pendingRequests, hevq, (htook hmsg).1, hops, LockOp.message,
              transferRequests, hmsg]
          · simp [Endpoint.pendingRequests, hevq, hops, LockOp.message, transferRequests, hmsg]
        · exact hguard.head hops hmsg (htook hmsg).1
    · refine .of_eq rfl ?_ rfl rfl
      unfold takenRequests
      rw [htaken, if_neg (by simp)]
      rfl
  -- the other rounds have no message in hand
  | @completions d ops hops =>
    have hnone : ∀ t, takenRequests .lockStep s t = [] := by
      intro t
      simp [takenRequests, takenMessage, hops, transferRequests]
    refine Endpoint.exec_wp (completionRound_evq s.q d) (fun more q' heq => ?_)
      fun f _ => .of_eq rfl (hnone _) rfl rfl
    refine .of_eq rfl (hnone _) heq ?_
    rw [hops]
    dsimp only
    split
    · rfl
    · rfl
  | @resume u us ops hops =>
    have hnone : ∀ t, takenRequests .lockStep s t = [] := by
      intro t
      simp [takenRequests, takenMessage, hops, transferRequests]
    exact Endpoint.exec_wp (resumeUrb_evq s.q u)
      (fun _ q' heq => .of_eq rfl (hnone _) heq (by rw [hops]; rfl))
      fun f _ => .of_eq rfl (hnone _) rfl rfl
  | resumed hops | giveback hops | back hops =>
    exact .of_eq rfl (by simp [takenRequests, takenMessage, hops, transferRequests]) rfl
      (by rw [hops]; rfl)

theorem step_requests (hno : NoWork a) (hstep : Endpoint.step a s = some s') :
    RequestStep a s s' := by
  obtain ⟨hf, hbranch⟩ := step_branch hstep
  cases hbranch with
  | workStep => exact absurd hno id
  | lockStep hlock => exact lockStep_requests hf hlock
  | @enqueue u request linked hl =>
    unfold Endpoint.enqueue
    refine Endpoint.exec_wp (s := { s with q := s.q.fill u request })
      (createBody_spec (E := fun _ => True) u (fun _ _ => trivial) linked)
      (fun r q' heff => ?_) fun f _ => .of_eq rfl rfl rfl rfl
    split
    · exact .of_eq rfl rfl heff.evq (by rw [hl]; rfl)
    · exact .of_eq rfl rfl heff.evq rfl
  | @dequeue u status =>
    refine Endpoint.exec_ok (checkUnlink_spec s.q u) fun r q' hq' => ?_
    obtain ⟨rfl, -⟩ := hq'
    exact .of_eq rfl rfl rfl rfl
  | @event msg hl =>
    refine ⟨?_, by simp [takenRequests], by simp [takenRequests]⟩
    have hhand : [LockOp.deliver, .event msg, .giveback].filterMap LockOp.message = [msg] := rfl
    simp [Endpoint.pendingRequests, hl, arrivedRequests, takenRequests, hhand,
      transferRequests_append]
  | completion hl => exact .of_eq rfl rfl rfl (by rw [hl]; rfl)
  | endpointReset | pop | leave | give | startCancel | startReset | startFirmware | complete
  | accept | async => exact .of_eq rfl rfl rfl rfl

end Steps

/-- Nothing pauses or resets, and there is a slot for every request taken. -/
def SlotForEach (a : EndpointAction) (s : Endpoint) : Prop :=
  NoWork a ∧ AtLockStep TakesWithSlot a s

theorem reachable_requests {p : Endpoint × RequestRecord}
    (h : requestSystem.Reachable (fun a _ => NoWork a) p) :
    p.2.arrived = p.2.taken.map TakenRequest.msg ++ p.1.pendingRequests ∧
      ∀ r ∈ p.2.taken, r.Answered ↔ r.slot = true := by
  refine StepSystem.Reachable.invariant (I := fun p : Endpoint × RequestRecord =>
    p.2.arrived = p.2.taken.map TakenRequest.msg ++ p.1.pendingRequests ∧
      ∀ r ∈ p.2.taken, r.Answered ↔ r.slot = true) ?_ ?_ h
  · rintro ⟨s, record⟩ hinit
    obtain ⟨-, rfl⟩ := StepSystem.withHistory_init.mp hinit
    exact ⟨rfl, by simp⟩
  · rintro a ⟨s, record⟩ ⟨s', record'⟩ - ⟨horder, hanswered⟩ hno hnext
    obtain ⟨hstep, rfl⟩ := StepSystem.withHistory_step hnext
    have hmove := step_requests hno hstep
    refine ⟨?_, fun r hr => ?_⟩
    · calc record.arrived ++ arrivedRequests a
          = record.taken.map TakenRequest.msg ++ (s.pendingRequests ++ arrivedRequests a) := by
            rw [horder, List.append_assoc]
        _ = (record.taken ++ takenRequests a s s').map TakenRequest.msg ++
              s'.pendingRequests := by
            rw [hmove.order, List.map_append, List.append_assoc]
    · rcases List.mem_append.mp hr with hr | hr
      · exact hanswered r hr
      · exact hmove.answered r hr

/-- With a slot for each request that is taken, each was taken with one. -/
theorem reachable_slots {p : Endpoint × RequestRecord}
    (h : requestSystem.Reachable (fun a p => SlotForEach a p.1) p) :
    ∀ r ∈ p.2.taken, r.slot = true := by
  refine StepSystem.Reachable.invariant (I := fun p : Endpoint × RequestRecord =>
    ∀ r ∈ p.2.taken, r.slot = true) ?_ ?_ h
  · rintro ⟨s, record⟩ hinit
    obtain ⟨-, rfl⟩ := StepSystem.withHistory_init.mp hinit
    simp
  · rintro a ⟨s, record⟩ ⟨s', record'⟩ - hslot hguard hnext r hr
    obtain ⟨hstep, rfl⟩ := StepSystem.withHistory_step hnext
    rcases List.mem_append.mp hr with hr | hr
    · exact hslot r hr
    · exact (step_requests hguard.1 hstep).slot hguard.2 r hr

/-- **Requests are taken in order, and none is lost.** In every run without pause
or reset, from any state: the requests that arrived are those that were taken,
followed by those still pending. The URB that took one put an element on `sq_out`
for it exactly when there was a free slot; so if there is one whenever a URB is
about to take a request, every request taken was answered. -/
theorem transfer_requests_taken {p : Endpoint × RequestRecord} :
    (requestSystem.Reachable (fun a _ => NoWork a) p →
      p.2.arrived = p.2.taken.map TakenRequest.msg ++ p.1.pendingRequests ∧
        ∀ r ∈ p.2.taken, r.Answered ↔ r.slot = true) ∧
    (requestSystem.Reachable (fun a p => SlotForEach a p.1) p → ∀ r ∈ p.2.taken, r.Answered) := by
  refine ⟨reachable_requests, fun h r hr => ?_⟩
  have hanswered := (reachable_requests (h.mono fun _ _ hguard => hguard.1)).2
  exact (hanswered r hr).mpr (reachable_slots h r hr)

/-- A host-to-device URB and two requests, of which it can take the first. -/
def requestRun : List EndpointAction :=
  [.enqueue 0 ⟨false, 8, 0, 0⟩ 0, .lockStep,
    .event ⟨BCE_VHCI_CMD_TRANSFER_REQUEST, 0, 0, 4⟩, .lockStep, .lockStep, .lockStep, .leave,
    .event ⟨BCE_VHCI_CMD_TRANSFER_REQUEST, 0, 0, 5⟩, .lockStep, .lockStep, .lockStep]

instance : ∀ a, Decidable (NoWork a)
  | .workStep _ _ => .isFalse id
  | .enqueue .. | .dequeue .. | .endpointReset | .event _ | .completion _ | .pop | .leave
  | .give _ | .startCancel .. | .startReset | .startFirmware _ | .lockStep | .complete ..
  | .accept _ | .async .. => .isTrue trivial

instance : ∀ op q, Decidable (TakesWithSlot op q)
  | .deliver, q => inferInstanceAs (Decidable (∀ msg ∈ q.evq.head?, _ → ∀ v ∈ q.headVurb, _))
  | .event msg, q =>
    inferInstanceAs (Decidable (msg.cmd = BCE_VHCI_CMD_TRANSFER_REQUEST → q.evq = [] → _))
  | .completions _, _ | .resume _, _ | .giveback, _ | .back, _ => .isTrue trivial

instance (a : EndpointAction) (s : Endpoint) : Decidable (SlotForEach a s) :=
  inferInstanceAs (Decidable (_ ∧ _))

def requestedState : Endpoint × RequestRecord :=
  requestSystem.after (fun a p => SlotForEach a p.1) requestRun (.fresh 0x01, ⟨[], []⟩)

/-- After it one request is answered and the other pending. -/
theorem transfer_requests_taken_of_two :
    requestedState.2.arrived =
      [⟨BCE_VHCI_CMD_TRANSFER_REQUEST, 0, 0, 4⟩, ⟨BCE_VHCI_CMD_TRANSFER_REQUEST, 0, 0, 5⟩] ∧
    requestedState.1.pendingRequests = [⟨BCE_VHCI_CMD_TRANSFER_REQUEST, 0, 0, 5⟩] ∧
    requestedState.2.arrived =
      requestedState.2.taken.map TakenRequest.msg ++ requestedState.1.pendingRequests ∧
    ∀ r ∈ requestedState.2.taken, r.Answered := by
  have hreach : requestSystem.Reachable (fun a p => SlotForEach a p.1) requestedState :=
    .after (.of_init (StepSystem.withHistory_init.mpr ⟨trivial, rfl⟩)) (by decide +kernel)
  exact ⟨by decide +kernel, by decide +kernel,
    (transfer_requests_taken.1 (hreach.mono fun _ _ hguard => hguard.1)).1,
    transfer_requests_taken.2 hreach⟩

/-- A `sq_out` of which every slot was taken by an element that was flushed. -/
def leakedSq : TransferSq :=
  { TransferSq.create 3 with
    sq := { bceAllocSq 3 0x100 with
      availableCommands := 0, tail := 255, doorbell := 255, completionTail := 255
      completionCidx := 255 } }

/-- A host-to-device endpoint with that queue. -/
def leakedEndpoint : Endpoint :=
  { Endpoint.fresh 0x01 with q := (Endpoint.fresh 0x01).q.setSq .toDevice leakedSq }

def droppedState : Endpoint × RequestRecord :=
  requestSystem.after (fun a _ => NoWork a)
    [.enqueue 0 ⟨false, 8, 0, 0⟩ 0, .lockStep,
      .event ⟨BCE_VHCI_CMD_TRANSFER_REQUEST, 0, 0, 4⟩, .lockStep, .lockStep, .lockStep]
    (leakedEndpoint, ⟨[], []⟩)

/-- The request is taken, and nothing is put on `sq_out` for it. -/
theorem request_dropped :
    ¬∀ p, requestSystem.Reachable (fun a _ => NoWork a) p → ∀ r ∈ p.2.taken, r.Answered := by
  intro h
  have hreach : requestSystem.Reachable (fun a _ => NoWork a) droppedState :=
    .after (.of_init (StepSystem.withHistory_init.mpr ⟨trivial, rfl⟩)) (by decide +kernel)
  have htaken : droppedState.2.taken =
      [⟨⟨BCE_VHCI_CMD_TRANSFER_REQUEST, 0, 0, 4⟩, some 0, false, []⟩] := by decide +kernel
  obtain ⟨e, he, -⟩ := h droppedState hreach _ (htaken ▸ List.mem_singleton_self _)
  cases he

end BceDriver
