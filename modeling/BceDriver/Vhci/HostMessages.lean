import BceDriver.Vhci.Announce
import BceDriver.Vhci.Host

/-!
# The transfer requests of all endpoints

The transfer queues of the host controller share `msg_asynchronous`. The device finds in
it a request for each element that any of them submitted to its `sq_in`, and nothing else.

- `HostLog`: the elements submitted by all queues, in order, beside the messages.
- `host_requests_announced`: what the device has read, and what it is going to read.
-/

namespace BceDriver

/-- The message asks for the element of the transfer queue. -/
def Host.AsksFor (h : Host) (p : Nat × TransferElement) (msg : BceVhciMessage) : Prop :=
  ∃ e, h.endpoints[p.1]? = some e ∧ msg = e.q.announcement p.2

/-- The elements of the transfer queue at `i`. -/
def elementsOf (log : List (Nat × TransferElement)) (i : Nat) : List TransferElement :=
  (log.filter (·.1 = i)).map Prod.snd

@[simp] theorem elementsOf_nil (i : Nat) : elementsOf [] i = [] := rfl

@[simp] theorem elementsOf_append (log log' : List (Nat × TransferElement)) (i : Nat) :
    elementsOf (log ++ log') i = elementsOf log i ++ elementsOf log' i := by
  simp [elementsOf]

theorem elementsOf_submitted (es : List TransferElement) (i j : Nat) :
    elementsOf (es.map fun e => (i, e)) j = if i = j then es else [] := by
  unfold elementsOf
  split
  · next hij => simp [hij, List.filter_map, Function.comp_def]
  · next hij => simp [hij, List.filter_map, Function.comp_def]

/-- What was written to `msg_asynchronous`, and for which elements. -/
structure HostLog (h : Host) (written : List BceVhciMessage) (log : List (Nat × TransferElement)) :
    Prop where
  channel : messageChannelSystem.Reachable (fun _ _ => True)
    { h.channel with written := written }
  asked : List.Forall₂ h.AsksFor log written
  elements : ∀ i e, h.endpoints[i]? = some e → elementsOf log i = e.q.submittedIn

/-- A new transfer queue has submitted nothing, whichever of its queues it got. -/
theorem submittedIn_created (address devAddr qidIn qidOut : Nat) (c : TqCreation)
    (urbs : Nat → Urb) (m : BceVhciMessageQueue) :
    (createdTransferQueue address devAddr qidIn qidOut c urbs m).submittedIn = [] := by
  unfold BceVhciTransferQueue.submittedIn
  cases hin : c.sqIn with
  | false => simp [createdTransferQueue, hin]
  | true =>
    simp only [createdTransferQueue, hin, if_true]
    split
    · next ht =>
      obtain ⟨qid, rfl⟩ := bceVhciCreateTransferQueue_sqs ht
      rfl
    · rfl

/-- Related lists have related members. -/
theorem forall₂_exists {α β : Type} {R : α → β → Prop} {xs : List α} {ys : List β}
    (h : List.Forall₂ R xs ys) {x : α} (hx : x ∈ xs) : ∃ y ∈ ys, R x y := by
  induction h with
  | nil => cases hx
  | cons hR _ ih =>
    rcases List.mem_cons.mp hx with rfl | hx
    · exact ⟨_, List.mem_cons_self, hR⟩
    · obtain ⟨y, hy, hRy⟩ := ih hx
      exact ⟨y, List.mem_cons_of_mem _ hy, hRy⟩

section Steps

variable {h h' : Host} {written : List BceVhciMessage} {log : List (Nat × TransferElement)}

/-- Only the tables changed. -/
theorem HostLog.of_tables (hlog : HostLog h written log) (vhci : BceVhci) :
    HostLog { h with vhci := vhci } written log :=
  ⟨hlog.channel, hlog.asked, hlog.elements⟩

/-- A request is for a transfer queue there is. -/
theorem HostLog.lt_of_mem (hlog : HostLog h written log) {p : Nat × TransferElement}
    (hp : p ∈ log) : p.1 < h.endpoints.length := by
  obtain ⟨msg, -, e, he, -⟩ := forall₂_exists hlog.asked hp
  exact (List.getElem?_eq_some_iff.mp he).1

/-- A new transfer queue has submitted nothing. -/
theorem HostLog.created (hlog : HostLog h written log) {e : Endpoint} (vhci : BceVhci)
    (place : TqRef → Option Nat) (he : e.q.submittedIn = []) :
    HostLog { h with vhci := vhci, endpoints := h.endpoints ++ [e], place := place }
      written log where
  channel := hlog.channel
  asked := by
    refine hlog.asked.imp fun p msg ⟨e', he', hmsg⟩ => ⟨e', ?_, hmsg⟩
    rw [List.getElem?_append_left (List.getElem?_eq_some_iff.mp he').1]
    exact he'
  elements := by
    intro i e' he'
    rcases getElem?_concat he' with hold | ⟨rfl, rfl⟩
    · exact hlog.elements i e' hold
    · rw [he]
      refine List.map_eq_nil_iff.mpr (List.filter_eq_nil_iff.mpr fun p hp hi => ?_)
      have hlt := hlog.lt_of_mem hp
      simp only [decide_eq_true_eq] at hi
      omega

/-- What the device and the interrupt do does not depend on what was written. -/
theorem MessageChannel.step_written {l : ChannelAction} {ch ch' : MessageChannel} (hl : l.Device)
    (hstep : MessageChannel.step l ch = some ch') (written : List BceVhciMessage) :
    MessageChannel.step l { ch with written := written } = some { ch' with written := written } ∧
      ch'.held = ch.held := by
  cases l with
  | read =>
    obtain ⟨hne, hch'⟩ := Option.ite_none_right_eq_some.mp hstep
    obtain rfl := Option.some.inj hch'
    exact ⟨if_pos hne, rfl⟩
  | complete e =>
    obtain ⟨hreading, hch'⟩ := Option.ite_none_right_eq_some.mp hstep
    obtain rfl := Option.some.inj hch'
    exact ⟨if_pos hreading, rfl⟩
  | notify =>
    simp only [MessageChannel.step] at hstep ⊢
    split at hstep
    · next hnext =>
      obtain rfl := Option.some.inj hstep
      exact ⟨rfl, rfl⟩
    · cases hstep
  | reserve | waits | cancel | write => exact hl.elim

theorem HostLog.ofChannel (hlog : HostLog h written log) {l : ChannelAction} {ch : MessageChannel}
    (hl : l.Device) (hstep : MessageChannel.step l h.channel = some ch) :
    HostLog { h with
      msgAsynchronous := ch.mq, next := ch.next, reading := ch.reading, taken := ch.taken }
      written log := by
  obtain ⟨hstep', hheld⟩ := MessageChannel.step_written hl hstep written
  refine ⟨?_, hlog.asked, hlog.elements⟩
  have hreach := hlog.channel.step trivial hstep'
  rw [show ({ ch with written := written } : MessageChannel) =
    ⟨ch.mq, 0, written, ch.next, ch.reading, ch.taken⟩ by rw [hheld]; rfl] at hreach
  exact hreach

/-- What a transfer queue submits is asked for. -/
theorem HostLog.ran (hlog : HostLog h written log) {i : Nat} {act : EndpointAction}
    (hact : ∀ m w, act ≠ .async m w) (hrun : h.run i act = some h') :
    ∃ written' log', HostLog h' written' log' := by
  obtain ⟨e, loaded, e', he, hload, hstep, rfl⟩ := Host.run_eq hrun
  cases (step_branch hload).2
  obtain ⟨es, hes⟩ := step_announced hstep hact rfl
  have hlt : i < h.endpoints.length := (List.getElem?_eq_some_iff.mp he).1
  have hsame : e'.q.announcement = e.q.announcement := hes.announcement
  refine ⟨written ++ es.map e.q.announcement, log ++ es.map fun el => (i, el), ?_, ?_, ?_⟩
  · exact hlog.channel.steps (hes.sends _ rfl rfl)
  · -- the endpoint in the requests of a queue does not change
    have hasks : ∀ p msg, h.AsksFor p msg → Host.AsksFor { h with
        endpoints := h.endpoints.set i e', msgAsynchronous := e'.q.msgAsynchronous } p msg := by
      rintro ⟨j, el⟩ msg ⟨e₁, he₁, hmsg⟩
      by_cases hij : i = j
      · subst hij
        obtain rfl : e = e₁ := Option.some.inj (he.symm.trans he₁)
        exact ⟨e', by simp [hlt], by rw [hmsg, hsame]⟩
      · exact ⟨e₁, by simpa [hij] using he₁, hmsg⟩
    refine List.rel_append (hlog.asked.imp hasks) ?_
    rw [List.forall₂_map_left_iff, List.forall₂_map_right_iff]
    exact List.forall₂_same.mpr fun el _ => ⟨e', by simp [hlt], by rw [hsame]⟩
  · intro j e₁ he₁
    rw [elementsOf_append, elementsOf_submitted]
    by_cases hij : i = j
    · subst hij
      obtain rfl : e' = e₁ := by simpa [hlt] using he₁
      rw [if_pos rfl, hlog.elements i e he]
      exact hes.submitted.symm
    · rw [if_neg hij, List.append_nil]
      exact hlog.elements j e₁ (by simpa [hij] using he₁)

theorem HostLog.step (hlog : HostLog h written log) {a : HostAction}
    (hstep : Host.step a h = some h') :
    ∃ written' log', HostLog h' written' log' := by
  cases Host.step_branch hstep with
  | dropped => exact ⟨written, log, hlog⟩
  | hub | called => exact ⟨written, log, hlog.of_tables _⟩
  | created => exact ⟨written, log, hlog.created _ _ (submittedIn_created ..)⟩
  | ran hact hrun => exact hlog.ran hact hrun
  | channel hl hch => exact ⟨written, log, hlog.ofChannel hl hch⟩

theorem reachable_hostLog (hreach : hostSystem.Reachable (fun _ _ => True) h) :
    ∃ written log, HostLog h written log := by
  refine hreach.invariant (I := fun h => ∃ written log, HostLog h written log) ?_ ?_
  · rintro h ⟨-, hnone, -, ⟨qid, dmaAddr, hmq⟩, hnext, hreading, htaken⟩
    refine ⟨[], [], .of_init ⟨qid, dmaAddr, ?_⟩, .nil, fun i e he => ?_⟩
    · simp only [Host.channel, hmq, hnext, hreading, htaken]
      rfl
    · rw [hnone] at he
      cases he
  · rintro a h h' _ ⟨written, log, hlog⟩ - hstep
    exact hlog.step hstep

/-- **Every element is asked for, once.** However the contexts of all endpoints interleave,
what the device has read from `msg_asynchronous` and what it is still going to read are the
requests for the elements the endpoints submitted to their `sq_in`s, each with the address
of its endpoint and its own length, in the order of submission; and restricted to one
endpoint, these are all the elements of its `sq_in`, in order. -/
theorem host_requests_announced (hreach : hostSystem.Reachable (fun _ _ => True) h) :
    ∃ log : List (Nat × TransferElement),
      List.Forall₂ (fun p msg => ∃ e, h.endpoints[p.1]? = some e ∧
        msg = some (e.q.announcement p.2)) log (h.taken ++ h.channel.pending) ∧
      ∀ i e, h.endpoints[i]? = some e → elementsOf log i = e.q.submittedIn := by
  obtain ⟨written, log, hlog⟩ := reachable_hostLog hreach
  refine ⟨log, ?_, hlog.elements⟩
  have hall : h.taken ++ h.channel.pending = written.map some :=
    ServiceQueue.conserved (MessageChannel.reachable_view hlog.channel)
  rw [hall, List.forall₂_map_right_iff]
  exact hlog.asked.imp fun p msg ⟨e, he, hmsg⟩ => ⟨e, he, congrArg some hmsg⟩

/-- Of the requests of two endpoints, one is read and the other is not. -/
theorem host_requests_announced_two :
    twoBulkEndpoints.taken = [some ⟨BCE_VHCI_CMD_TRANSFER_REQUEST, 0, 0x8201, 8⟩] ∧
    twoBulkEndpoints.channel.pending = [some ⟨BCE_VHCI_CMD_TRANSFER_REQUEST, 0, 0x8101, 16⟩] ∧
    ∃ log : List (Nat × TransferElement),
      List.Forall₂ (fun p msg => ∃ e, twoBulkEndpoints.endpoints[p.1]? = some e ∧
        msg = some (e.q.announcement p.2)) log
        (twoBulkEndpoints.taken ++ twoBulkEndpoints.channel.pending) := by
  obtain ⟨log, hlog, -⟩ :=
    host_requests_announced (twoBulkEndpoints_reachable.mono fun _ _ _ => trivial)
  exact ⟨by decide +kernel, by decide +kernel, log, hlog⟩

end Steps

end BceDriver
