import BceDriver.Vhci.Places

/-!
# What every handler leaves alone

Every handler of `transfer.c` is put together from few accesses: to the memory of URBs,
to the lists, to the submission queues and to `msg_asynchronous`. A relation of states
that all of these respect is respected by every handler, and by every step of a run that
is not one of the work item's; the work item writes the flags of the queue besides.

- `HandlerFrame`: the accesses.
- `HandlerFrame.lockStep`, `HandlerFrame.enqueue`: the steps that run a handler.
- `HandlerFrame.offWork`: all but the work item.
- `WorkFrame.step`: the work item too, for a relation that its flags respect.
- `Fixed`: what no handler writes at all.
-/

namespace BceDriver

open FaultState

/-- The accesses of the handlers, each respecting `R`. The data of a device-to-host URB
is asked for as a whole, since the message and the element go together. -/
structure HandlerFrame (R : BceVhciTransferQueue → BceVhciTransferQueue → Prop) : Prop where
  refl : ∀ q, R q q
  trans : ∀ q q₁ q', R q q₁ → R q₁ q' → R q q'
  vurbs : ∀ q vurbs nextVurb, R q { q with vurbs := vurbs, nextVurb := nextVurb }
  urbs : ∀ q urbs, R q { q with urbs := urbs }
  lists : ∀ q urbList givebackUrbList evq,
    R q { q with urbList := urbList, givebackUrbList := givebackUrbList, evq := evq }
  stall : ∀ q, R q { q with active := false, stalled := true }
  resetQueued : ∀ q b, R q { q with resetQueued := b }
  /-- no element is submitted -/
  setSq : ∀ q d t t', q.sqs d = some t → t'.submitted = t.submitted → R q (q.setSq d t')
  submitOut : ∀ e, Respects R (submitTransferSq .toDevice e)
  dataTransferIn : ∀ urb timeout, Respects R (bceVhciUrbDataTransferIn urb timeout)

namespace HandlerFrame

variable {R : BceVhciTransferQueue → BceVhciTransferQueue → Prop} (h : HandlerFrame R)
include h

/-! ## The accesses -/

theorem bind {α β : Type} {m : TransferM α} {f : α → TransferM β} (hm : Respects R m)
    (hf : ∀ a, Respects R (f a)) : Respects R (m >>= f) :=
  respects_bind h.trans hm hf

theorem pure {α : Type} (a : α) : Respects R (Pure.pure a : TransferM α) :=
  respects_pure h.refl a

theorem readVurb (urb : Nat) : Respects R (readVurb urb) := by
  intro q
  rw [wp_readVurb]
  split
  · exact h.refl q
  · trivial

theorem readHcpriv (u : Nat) : Respects R (readHcpriv u) := by
  intro q
  rw [wp_readHcpriv]
  split
  · exact h.refl q
  · trivial

theorem modifyVurb (urb : Nat) (f : BceVhciUrb → BceVhciUrb) : Respects R (modifyVurb urb f) := by
  intro q
  rw [wp_modifyVurb]
  split
  · exact h.vurbs q _ q.nextVurb
  · trivial

theorem kfreeVurb (urb : Nat) : Respects R (kfreeVurb urb) := by
  intro q
  rw [wp_kfreeVurb]
  split
  · exact h.vurbs q _ q.nextVurb
  · trivial

theorem get : Respects R (MonadState.get : TransferM BceVhciTransferQueue) :=
  respects_get h.refl

/-- A program that begins with the state it runs in. -/
theorem get_bind {α : Type} {f : BceVhciTransferQueue → TransferM α}
    (hf : ∀ q, Respects R (f q)) : Respects R (MonadState.get >>= f) :=
  h.bind h.get hf

theorem unlink (u : Nat) : Respects R (usbHcdUnlinkUrbFromEp u) :=
  respects_modify fun q => h.lists q (q.urbList.erase u) q.givebackUrbList q.evq

theorem requestReset : Respects R bceVhciTransferQueueRequestReset :=
  respects_modify fun q => h.resetQueued q true

theorem reserveOut (timeout : Nat) : Respects R (reserveTransferSq .toDevice timeout) := by
  intro q
  cases ht : q.sqs .toDevice with
  | none => exact wp_reserveTransferSq_none ht trivial timeout
  | some t =>
    refine wp_reserveTransferSq ht timeout (fun _ => h.setSq q _ t _ ht rfl) fun t' _ hw => ?_
    obtain ⟨tokens, waiting, rfl⟩ := hw
    exact h.setSq q _ t _ ht rfl

theorem nextCompletion (d : DmaDataDirection) : Respects R (nextTransferCompletion d) := by
  intro q
  rw [wp_nextTransferCompletion]
  cases ht : q.sqs d with
  | none => trivial
  | some t =>
    dsimp only
    split
    · exact h.setSq q d t _ ht rfl
    · exact h.refl q

theorem notify (d : DmaDataDirection) : Respects R (notifyTransferSq d) := by
  intro q
  rw [wp_notifyTransferSq]
  cases ht : q.sqs d with
  | none => trivial
  | some t => exact h.setSq q d t _ ht rfl

/-! ## The handlers -/

theorem complete (urb : Nat) (status : Int) : Respects R (bceVhciUrbComplete urb status) := by
  unfold bceVhciUrbComplete
  refine h.bind (h.readVurb urb) fun v => h.bind (h.unlink v.urb) fun _ => ?_
  refine h.bind (respects_modify fun q => h.urbs q _) fun _ => h.bind (h.kfreeVurb urb) fun _ => ?_
  exact respects_modify fun q => h.lists q q.urbList _ q.evq

theorem checkStatus (urb : Nat) : Respects R (bceVhciUrbControlCheckStatus urb) := by
  unfold bceVhciUrbControlCheckStatus
  refine h.bind (h.readVurb urb) fun v => respects_ite (h.pure _) (respects_ite ?_ (h.pure _))
  refine h.bind (h.modifyVurb urb _) fun _ => respects_ite ?_ ?_
  · refine h.bind (respects_modify h.stall) fun _ => h.bind (h.complete urb _) fun _ => ?_
    refine h.get_bind fun q => ?_
    exact respects_ite (h.bind h.requestReset fun _ => h.pure _) (h.bind (h.pure _)
      fun _ => h.pure _)
  · exact h.bind (h.complete urb 0) fun _ => h.pure _

theorem dataStart (urb timeout : Nat) : Respects R (bceVhciUrbDataStart urb timeout) := by
  unfold bceVhciUrbDataStart
  refine h.bind (h.readVurb urb) fun v => ?_
  split
  · refine h.get_bind fun q => respects_ite ?_ ?_
    · exact h.bind (h.modifyVurb urb _) fun _ => h.pure _
    · exact h.bind (h.modifyVurb urb _) fun _ => h.pure _
  · exact h.dataTransferIn urb timeout

theorem sendOutData (urb : Nat) (kind : ElementKind) (addr size : Nat) :
    Respects R (bceVhciUrbSendOutData urb kind addr size) := by
  unfold bceVhciUrbSendOutData
  refine h.bind (h.reserveOut 0) fun r => respects_ite (h.pure _) ?_
  exact h.bind (h.submitOut _) fun _ => h.pure _

theorem dataUpdate (urb : Nat) (msg : BceVhciMessage) :
    Respects R (bceVhciUrbDataUpdate urb msg) := by
  unfold bceVhciUrbDataUpdate
  refine h.bind (h.readVurb urb) fun v => respects_ite (h.get_bind fun q => ?_) (h.pure _)
  refine h.bind (h.sendOutData _ _ _ _) fun status => respects_ite (h.pure _) ?_
  exact h.bind (h.modifyVurb urb _) fun _ => h.pure _

theorem dataTransferCompletion (urb : Nat) (c : BceSqCompletionData) :
    Respects R (bceVhciUrbDataTransferCompletion urb c) := by
  unfold bceVhciUrbDataTransferCompletion
  refine h.bind (h.readVurb urb) fun v => respects_ite ?_ (h.pure _)
  refine h.bind (h.modifyVurb urb _) fun _ => h.get_bind fun q => respects_ite ?_ (h.pure _)
  refine h.bind (respects_modify fun q => h.urbs q _) fun _ => ?_
  refine h.bind (h.modifyVurb urb _) fun _ => respects_ite ?_ (h.pure _)
  exact h.bind (h.complete urb 0) fun _ => h.pure _

theorem controlUpdate (urb : Nat) (msg : BceVhciMessage) :
    Respects R (bceVhciUrbControlUpdate urb msg) := by
  unfold bceVhciUrbControlUpdate
  refine h.bind (h.readVurb urb) fun v => respects_ite ?_ (respects_ite ?_ (respects_ite ?_ ?_))
  · exact h.bind (h.modifyVurb urb _) fun _ => h.checkStatus urb
  · refine respects_ite (h.get_bind fun q => ?_) (h.pure _)
    refine h.bind (h.sendOutData _ _ _ _) fun status => respects_ite (h.pure _) ?_
    exact h.bind (h.modifyVurb urb _) fun _ => h.pure _
  · exact h.bind (h.dataUpdate urb msg) fun status => respects_ite (h.pure _) (h.checkStatus urb)
  · exact h.pure _

theorem controlTransferCompletion (urb : Nat) (c : BceSqCompletionData) :
    Respects R (bceVhciUrbControlTransferCompletion urb c) := by
  unfold bceVhciUrbControlTransferCompletion
  refine h.bind (h.readVurb urb) fun v => respects_ite ?_ (respects_ite ?_ (h.pure _))
  · refine h.bind (h.dataStart urb 1000) fun status => respects_ite ?_ (h.pure _)
    exact h.bind (h.complete urb _) fun _ => h.pure _
  · refine h.bind (h.dataTransferCompletion urb c) fun status => ?_
    exact respects_ite (h.pure _) (h.checkStatus urb)

theorem update (urb : Nat) (msg : BceVhciMessage) : Respects R (bceVhciUrbUpdate urb msg) := by
  unfold bceVhciUrbUpdate
  refine h.bind (h.readVurb urb) fun v => ?_
  exact respects_ite (h.controlUpdate urb msg) (h.dataUpdate urb msg)

theorem transferCompletion (urb : Nat) (c : BceSqCompletionData) :
    Respects R (bceVhciUrbTransferCompletion urb c) := by
  unfold bceVhciUrbTransferCompletion
  refine h.bind (h.readVurb urb) fun v => ?_
  exact respects_ite (h.controlTransferCompletion urb c) (h.dataTransferCompletion urb c)

theorem init (urb : Nat) : Respects R (bceVhciUrbInit urb) := by
  unfold bceVhciUrbInit
  refine h.bind (h.readVurb urb) fun v => respects_ite ?_ (h.dataStart urb 0)
  exact h.bind (h.modifyVurb urb _) fun _ => h.pure _

theorem resume (urb : Nat) : Respects R (bceVhciUrbResume urb) := by
  unfold bceVhciUrbResume
  refine h.bind (h.readVurb urb) fun v => ?_
  split
  · exact h.bind (h.init urb) fun _ => h.pure _
  · refine h.bind (h.dataTransferIn urb 0) fun status => ?_
    exact respects_ite (h.complete urb _) (h.pure _)
  · exact h.pure _

/-! ## The programs of a run -/

theorem deliverRound : Respects R bceVhciTransferQueueDeliverPendingRound := by
  unfold bceVhciTransferQueueDeliverPendingRound
  refine h.get_bind fun q => ?_
  split
  · refine h.bind (h.readHcpriv _) fun urb => h.bind (h.update urb _) fun status => ?_
    refine respects_ite (h.pure _) (h.bind (respects_modify fun q => ?_) fun _ => h.pure _)
    exact h.lists q q.urbList q.givebackUrbList q.evq.tail
  · exact h.pure _

theorem eventBody (msg : BceVhciMessage) : Respects R (bceVhciTransferQueueEventBody msg) := by
  have hdefer : Respects R (bceVhciTransferQueueDeferEvent msg) :=
    respects_modify fun q => h.lists q q.urbList q.givebackUrbList _
  unfold bceVhciTransferQueueEventBody
  refine h.get_bind fun q => respects_ite hdefer ?_
  split
  · exact h.pure _
  · refine h.bind (h.readHcpriv _) fun urb => h.bind (h.update urb msg) fun status => ?_
    exact respects_ite hdefer (h.pure _)

theorem completionRound (d : DmaDataDirection) :
    Respects R (bceVhciTransferQueueCompletionRound d) := by
  unfold bceVhciTransferQueueCompletionRound
  refine h.bind (h.nextCompletion d) fun c => ?_
  split
  · exact h.pure _
  · refine respects_ite (h.pure _) (h.get_bind fun q => ?_)
    split
    · exact h.pure _
    · refine h.bind (h.readHcpriv _) fun urb => h.bind (h.transferCompletion urb _) fun _ => ?_
      exact h.bind (h.notify d) fun _ => h.pure _

theorem resumeUrb (u : Nat) : Respects R (bceVhciTransferQueueResumeUrb u) := by
  unfold bceVhciTransferQueueResumeUrb
  exact h.bind (h.readHcpriv u) fun urb => h.resume urb

/-- The new `bce_vhci_urb` is stored to the `struct urb`. -/
theorem store (q : BceVhciTransferQueue) (vurbs : Nat → Option BceVhciUrb) (nextVurb : Nat)
    (urbs : Nat → Urb) : R q { q with vurbs := vurbs, nextVurb := nextVurb, urbs := urbs } :=
  h.trans _ _ _ (h.vurbs q vurbs nextVurb) (h.urbs _ urbs)

theorem createBody (u : Nat) (linked : Int) : Respects R (bceVhciUrbCreateBody u linked) := by
  intro q
  unfold bceVhciUrbCreateBody
  rw [wp_bind, wp_get, wp_bind, wp_set]
  refine wp_imp (respects_ite (R := R) ?_ ?_ _) fun _ q' => h.trans q _ q' (h.store q _ _ _)
  · exact h.bind (respects_modify fun q => h.urbs q _) fun _ =>
      h.bind (h.kfreeVurb _) fun _ => h.pure _
  refine h.bind (respects_modify fun q => ?_) fun _ => ?_
  · exact h.trans _ _ _ (h.urbs q _) (h.lists _ _ q.givebackUrbList q.evq)
  -- the rest, from the status of the start
  have hdone (vurb : Nat) (status : Int) : Respects R (do
      if status ≠ 0 then
        usbHcdUnlinkUrbFromEp u
        modify fun q => q.setUrb u { q.urbs u with hcpriv := none }
        BceDriver.kfreeVurb vurb
      return status : TransferM Int) := by
    refine respects_ite ?_ (h.pure _)
    refine h.bind (h.unlink u) fun _ => h.bind (respects_modify fun q => h.urbs q _) fun _ => ?_
    exact h.bind (h.kfreeVurb vurb) fun _ => h.pure _
  have hparked (vurb : Nat) : Respects R
      (BceDriver.modifyVurb vurb fun v => { v with state := .initPaused }) :=
    h.modifyVurb vurb _
  refine respects_ite (h.bind (h.init _) (hdone _)) (respects_ite ?_ ?_)
  · refine h.bind h.requestReset fun _ => h.bind (hparked _) fun _ => ?_
    exact h.bind (h.pure _) (hdone _)
  · exact h.bind (hparked _) fun _ => h.bind (h.pure _) (hdone _)

/-! ## The steps -/

section Steps

variable {s s' : Endpoint} {a : EndpointAction}

/-- A step that runs a program. -/
theorem exec {α : Type} {m : TransferM α} {k : α → BceVhciTransferQueue → Endpoint}
    (hm : Respects R m) (hk : ∀ a q, (k a q).q = q) : R s.q (s.exec m k).q :=
  Endpoint.exec_wp (Q := fun s' => R s.q s'.q) (hm s.q) (fun a q hq => (hk a q).symm ▸ hq)
    fun _ _ => h.refl s.q

theorem lockStep (hstep : s.lockStep = some s') : R s.q s'.q := by
  cases lockStep_branch hstep with
  | deliver => exact h.exec h.deliverRound fun _ _ => rfl
  | completions => exact h.exec (h.completionRound _) fun _ _ => rfl
  | event => exact h.exec (h.eventBody _) fun _ _ => rfl
  | resume => exact h.exec (h.resumeUrb _) fun _ _ => rfl
  | resumed | giveback | back => exact h.refl s.q

theorem enqueue (u : Nat) (request : UrbRequest) (linked : Int) :
    R s.q (s.enqueue u request linked).q := by
  refine h.trans s.q (s.q.fill u request) _ (h.urbs s.q _) ?_
  refine h.exec (s := { s with q := s.q.fill u request }) (h.createBody u linked) fun status q => ?_
  split <;> rfl

/-- What everybody but the work item and the other endpoints does. -/
theorem offWork (hstep : Endpoint.step a s = some s')
    (hwork : ∀ reply aborted, a ≠ .workStep reply aborted) (hasync : ∀ m w, a ≠ .async m w) :
    R s.q s'.q := by
  cases (step_branch hstep).2 with
  | workStep => exact absurd rfl (hwork _ _)
  | async => exact absurd rfl (hasync _ _)
  | enqueue => exact h.enqueue _ _ _
  | lockStep hlock => exact h.lockStep hlock
  | @dequeue u status =>
    refine Endpoint.exec_ok (Q := fun s' => R s.q s'.q) (checkUnlink_spec s.q u) fun r q' hq' => ?_
    rw [hq'.1]
    exact h.urbs s.q _
  | endpointReset => exact h.resetQueued s.q true
  | pop hlist => exact h.lists s.q s.q.urbList _ s.q.evq
  | give => exact h.urbs s.q _
  | startReset => exact h.resetQueued s.q false
  | complete ht | accept ht => exact h.setSq s.q _ _ _ ht rfl
  | event | completion | leave | startCancel | startFirmware => exact h.refl s.q

end Steps

end HandlerFrame

/-! ## The work item -/

/-- The work item writes the flags of the queue besides. -/
structure WorkFrame (R : BceVhciTransferQueue → BceVhciTransferQueue → Prop) : Prop
    extends HandlerFrame R where
  flags : ∀ q active stalled fwPaused state, R q { q with
    active := active, stalled := stalled, fwPaused := fwPaused, state := state }

namespace WorkFrame

variable {R : BceVhciTransferQueue → BceVhciTransferQueue → Prop} (h : WorkFrame R)
include h

theorem setState (reply : CommandOutcome) : Respects R (bceVhciCmdEndpointSetState reply) := by
  unfold bceVhciCmdEndpointSetState
  refine h.bind (respects_modify fun q => ?_) fun _ => h.pure _
  exact h.flags q q.active q.stalled q.fwPaused _

theorem pauseCommand (reply : CommandOutcome) :
    Respects R (bceVhciTransferQueuePauseCommand reply) := by
  unfold bceVhciTransferQueuePauseCommand
  refine h.bind (h.setState reply) fun status => respects_ite (h.pure _) (h.get_bind fun q => ?_)
  exact respects_ite (h.pure _) (h.pure _)

theorem resumeCommand (reply : CommandOutcome) :
    Respects R (bceVhciTransferQueueResumeCommand reply) := by
  unfold bceVhciTransferQueueResumeCommand
  refine h.bind (h.setState reply) fun status => respects_ite (h.pure _) (h.get_bind fun q => ?_)
  exact respects_ite (h.pure _) (h.pure _)

theorem activate : Respects R bceVhciTransferQueueActivate := by
  unfold bceVhciTransferQueueActivate
  refine h.bind (respects_modify fun q => ?_) fun _ => h.get_bind fun q => h.pure _
  exact h.flags q true q.stalled q.fwPaused q.state

theorem flush (d : DmaDataDirection) (aborted : Nat) :
    Respects R (bceCmdFlushMemoryQueue d aborted) := by
  refine respects_modify fun q => ?_
  cases ht : q.sqs d with
  | none => exact h.refl q
  | some t => exact h.setSq q d t _ ht rfl

theorem checkUnlink (u : Nat) (status : Int) : Respects R (usbHcdCheckUnlinkUrb u status) := by
  unfold usbHcdCheckUnlinkUrb
  intro q
  rw [wp_bind, wp_get]
  refine wp_ite.mpr ⟨fun _ => h.pure _ q, fun _ => wp_ite.mpr ⟨fun _ => h.pure _ q, fun _ => ?_⟩⟩
  rw [wp_bind, wp_set, wp_pure]
  exact h.urbs q _

theorem removeBody (u : Nat) (status : Int) : Respects R (bceVhciUrbRemoveBody u status) := by
  unfold bceVhciUrbRemoveBody
  refine h.bind (h.checkUnlink u status) fun r => respects_ite (h.pure _) ?_
  exact h.get_bind fun q => h.bind (h.unlink u) fun _ => h.pure _

theorem workStep {s s' : Endpoint} {reply : CommandOutcome} {aborted : Nat}
    (hstep : s.workStep reply aborted = some s') : R s.q s'.q := by
  cases workStep_branch hstep with
  | deactivate => exact h.flags s.q false s.q.stalled s.q.fwPaused s.q.state
  | removePending => exact h.lists s.q s.q.urbList s.q.givebackUrbList []
  | pauseCommand =>
    refine h.exec (h.pauseCommand reply) fun status q => ?_
    split <;> rfl
  | flush => exact h.exec (h.flush _ _) fun _ _ => rfl
  | remove =>
    refine h.exec (h.removeBody _ _) fun r q => ?_
    split
    · split <;> rfl
    · rfl
  | kfree => exact h.exec (h.kfreeVurb _) fun _ _ => rfl
  | giveback => exact h.urbs s.q _
  | resumeCommand => exact h.exec (h.resumeCommand reply) fun _ _ => rfl
  | activate => exact h.exec h.activate fun _ _ => rfl
  | clearStalled => exact h.flags s.q s.q.active false s.q.fwPaused s.q.state
  | @setFwPaused b => exact h.flags s.q s.q.active s.q.stalled b s.q.state
  | stall => exact h.flags s.q false true s.q.fwPaused BCE_VHCI_ENDPOINT_STALLED
  | resumeUnlessFwPaused | returnUnlessStalled | resetCommand => exact h.refl s.q

/-- What everybody but the other endpoints does. -/
theorem step {s s' : Endpoint} {a : EndpointAction} (hstep : Endpoint.step a s = some s')
    (hasync : ∀ m w, a ≠ .async m w) : R s.q s'.q := by
  by_cases hwork : ∃ reply aborted, a = .workStep reply aborted
  · obtain ⟨reply, aborted, rfl⟩ := hwork
    exact h.workStep (step_workStep hstep)
  · exact h.offWork hstep (fun reply aborted heq => hwork ⟨reply, aborted, heq⟩) hasync

end WorkFrame

/-! ## What no handler writes -/

/-- The endpoint is the same, and the firmware thinks of it as before. -/
structure Fixed (q q' : BceVhciTransferQueue) : Prop where
  bEndpointAddress : q'.bEndpointAddress = q.bEndpointAddress
  devAddr : q'.devAddr = q.devAddr
  state : q'.state = q.state
  fwPaused : q'.fwPaused = q.fwPaused

namespace Fixed

theorem refl (q : BceVhciTransferQueue) : Fixed q q := ⟨rfl, rfl, rfl, rfl⟩

theorem trans {q q₁ q' : BceVhciTransferQueue} (h : Fixed q q₁) (h' : Fixed q₁ q') : Fixed q q' :=
  ⟨h'.bEndpointAddress.trans h.bEndpointAddress, h'.devAddr.trans h.devAddr,
    h'.state.trans h.state, h'.fwPaused.trans h.fwPaused⟩

theorem submit (d : DmaDataDirection) (e : TransferElement) :
    Respects Fixed (submitTransferSq d e) := by
  intro q
  rw [wp_submitTransferSq]
  cases q.sqs d with
  | none => trivial
  | some t => exact ⟨rfl, rfl, rfl, rfl⟩

theorem reserve (d : DmaDataDirection) (timeout : Nat) :
    Respects Fixed (reserveTransferSq d timeout) := by
  intro q
  cases ht : q.sqs d with
  | none => exact wp_reserveTransferSq_none ht trivial timeout
  | some t =>
    exact wp_reserveTransferSq ht timeout (fun _ => ⟨rfl, rfl, rfl, rfl⟩)
      fun _ _ _ => ⟨rfl, rfl, rfl, rfl⟩

theorem modifyVurb (urb : Nat) (f : BceVhciUrb → BceVhciUrb) :
    Respects Fixed (modifyVurb urb f) := by
  intro q
  rw [wp_modifyVurb]
  split
  · exact ⟨rfl, rfl, rfl, rfl⟩
  · trivial

theorem dataTransferIn (urb timeout : Nat) :
    Respects Fixed (bceVhciUrbDataTransferIn urb timeout) := by
  have hseq {α β : Type} {m : TransferM α} {f : α → TransferM β} (hm : Respects Fixed m)
      (hf : ∀ a, Respects Fixed (f a)) : Respects Fixed (m >>= f) :=
    respects_bind (R := Fixed) (fun _ _ _ => trans) hm hf
  have hpure {α : Type} (a : α) : Respects Fixed (pure a : TransferM α) := respects_pure refl a
  unfold bceVhciUrbDataTransferIn
  refine hseq (fun q => ?_) fun r => respects_ite (hpure _) ?_
  · exact wp_reserveMsgAsynchronous timeout fun _ _ _ _ _ => ⟨rfl, rfl, rfl, rfl⟩
  refine hseq (reserve _ _) fun _ => respects_ite ?_ ?_
  · exact hseq (respects_modify fun _ => ⟨rfl, rfl, rfl, rfl⟩) fun _ => hpure _
  refine hseq (modifyVurb urb _) fun _ => hseq (fun q => ?_) fun v => ?_
  · rw [wp_readVurb]
    split
    · exact refl q
    · trivial
  refine hseq (respects_get refl) fun q => ?_
  refine hseq (respects_modify fun _ => ⟨rfl, rfl, rfl, rfl⟩) fun _ => hseq (submit _ _) fun _ => ?_
  exact hseq (modifyVurb urb _) fun _ => hpure _

theorem handlerFrame : HandlerFrame Fixed where
  refl := refl
  trans _ _ _ := trans
  vurbs _ _ _ := ⟨rfl, rfl, rfl, rfl⟩
  urbs _ _ := ⟨rfl, rfl, rfl, rfl⟩
  lists _ _ _ _ := ⟨rfl, rfl, rfl, rfl⟩
  stall _ := ⟨rfl, rfl, rfl, rfl⟩
  resetQueued _ _ := ⟨rfl, rfl, rfl, rfl⟩
  setSq _ _ _ _ _ _ := ⟨rfl, rfl, rfl, rfl⟩
  submitOut := submit .toDevice
  dataTransferIn := dataTransferIn

end Fixed

/-- A step that is not the work item's changes none of it. -/
theorem step_fixed {s s' : Endpoint} {a : EndpointAction} (hstep : Endpoint.step a s = some s')
    (hwork : ∀ reply aborted, a ≠ .workStep reply aborted) : Fixed s.q s'.q := by
  by_cases hasync : ∃ m w, a = .async m w
  · obtain ⟨m, w, rfl⟩ := hasync
    cases (step_branch hstep).2
    exact ⟨rfl, rfl, rfl, rfl⟩
  · exact Fixed.handlerFrame.offWork hstep hwork fun m w heq => hasync ⟨m, w, heq⟩

end BceDriver
