import BceDriver.Lib.Simulation
import BceDriver.Vhci.EndpointQueues
import BceDriver.Vhci.MessageChannel
import BceDriver.Vhci.TransferRun

/-!
# The whole host controller

All the transfer queues of all devices, with what they share: the tables events are
routed by, the message queue `msg_asynchronous`, and one ordered workqueue.

- A transfer queue has its own contexts, and those of all queues go on in any order; a
  step of one finds in `msg_asynchronous` what the others left there.
- Events of the firmware find their queue through the tables.
- Cancel works, resets and firmware events of all queues run one at a time.
- Nobody is woken up out of a wait for a slot of `msg_asynchronous`: a wait that is
  granted is the same as a later call that finds the slot.

`host_endpoint_reachable`: each transfer queue of the host controller is a run of a
single endpoint, so that whatever holds of every run of an endpoint holds of it.
-/

namespace BceDriver

/-! ## State and steps -/

structure Host where
  vhci : BceVhci
  /-- every transfer queue ever created, with those that work on it -/
  endpoints : List Endpoint
  /-- the entries of the tables -/
  place : TqRef → Option Nat
  msgAsynchronous : BceVhciMessageQueue
  /-- the slot of `msg_asynchronous` the device reads next -/
  next : Nat
  /-- the messages it read and did not complete -/
  reading : Nat
  /-- what it read, in order -/
  taken : List (Option BceVhciMessage)

inductive HostAction where
  /-- `bce_vhci_enable_device` or `bce_vhci_add_endpoint` -/
  | call (c : EndpointCall) (qidIn qidOut : Nat) (urbs : Nat → Urb)
  | hubControl (r : HubRequest)
  /-- a context of one of the transfer queues -/
  | endpoint (i : Nat) (a : EndpointAction)
  | usbEvent (msg : BceVhciMessage)
  | firmwareEvent (msg : BceVhciMessage)
  /-- what the device and the interrupt do to `msg_asynchronous` -/
  | channel (a : ChannelAction)

/-- What the endpoint's own contexts do, without the firmware's messages and without the
other endpoints. -/
def EndpointAction.Own : EndpointAction → Prop
  | .event _ | .startFirmware _ | .async .. => False
  | _ => True

instance : ∀ a : EndpointAction, Decidable a.Own
  | .event _ | .startFirmware _ | .async .. => .isFalse id
  | .enqueue .. | .dequeue .. | .endpointReset | .completion _ | .lockStep | .pop | .leave
  | .give _ | .startCancel .. | .startReset | .workStep .. | .complete .. | .accept _ =>
    .isTrue trivial

/-- A work item begins. -/
def EndpointAction.StartsWork : EndpointAction → Prop
  | .startCancel .. | .startReset | .startFirmware _ => True
  | _ => False

instance : ∀ a : EndpointAction, Decidable a.StartsWork
  | .startCancel .. | .startReset | .startFirmware _ => .isTrue trivial
  | .enqueue .. | .dequeue .. | .endpointReset | .event _ | .completion _ | .lockStep | .pop
  | .leave | .give _ | .workStep .. | .complete .. | .accept _ | .async .. => .isFalse id

/-- What is not done by the handlers. -/
def ChannelAction.Device : ChannelAction → Prop
  | .read | .complete _ | .notify => True
  | _ => False

instance : ∀ a : ChannelAction, Decidable a.Device
  | .read | .complete _ | .notify => .isTrue trivial
  | .reserve | .waits .. | .cancel | .write _ => .isFalse id

/-- The address of the endpoint that a call is for. -/
def EndpointCall.address : EndpointCall → Nat
  | .enableDevice _ ep0Address _ _ => ep0Address
  | .addEndpoint _ _ bEndpointAddress _ => bEndpointAddress

/-- `bce_vhci_create_transfer_queue`, with those of its submission queues that could be
created. -/
def createdTransferQueue (address devAddr qidIn qidOut : Nat) (c : TqCreation) (urbs : Nat → Urb)
    (m : BceVhciMessageQueue) : BceVhciTransferQueue :=
  let q := bceVhciCreateTransferQueue address devAddr qidIn qidOut urbs m []
  { q with sqs := fun
    | .fromDevice => if c.sqIn then q.sqs .fromDevice else none
    | .toDevice => if c.sqOut then q.sqs .toDevice else none }

namespace Host

/-- No work item runs. -/
def Idle (h : Host) : Prop := ∀ e ∈ h.endpoints, e.worker = []

instance (h : Host) : Decidable h.Idle :=
  inferInstanceAs (Decidable (∀ e ∈ h.endpoints, e.worker = []))

/-- `msg_asynchronous`, with no reservation held between the steps. -/
def channel (h : Host) : MessageChannel :=
  ⟨h.msgAsynchronous, 0, [], h.next, h.reading, h.taken⟩

/-- A context of a transfer queue goes on. -/
def run (h : Host) (i : Nat) (a : EndpointAction) : Option Host := do
  let e ← h.endpoints[i]?
  let loaded ← Endpoint.step (.async h.msgAsynchronous []) e
  let e' ← Endpoint.step a loaded
  return { h with
    endpoints := h.endpoints.set i e', msgAsynchronous := e'.q.msgAsynchronous }

/-- The entry of a new transfer queue. A new device has no other entries. -/
def newPlace (h : Host) (ref : TqRef) : EndpointCall → TqRef → Option Nat
  | .enableDevice .., r =>
    if r = ref then some h.endpoints.length
    else if r.devid = ref.devid then none else h.place r
  | .addEndpoint .., r => if r = ref then some h.endpoints.length else h.place r

/-- A transfer queue is created, if the call creates one. -/
def install (h : Host) (call : EndpointCall) (qidIn qidOut : Nat) (urbs : Nat → Urb)
    (r : EndpointResult) (vhci : BceVhci) : Host :=
  match call.creates h.vhci, r.hcpriv with
  | some _, some ref =>
    { h with
      vhci := vhci
      endpoints := h.endpoints ++ [.start (createdTransferQueue call.address ref.devid qidIn qidOut
        call.creation urbs h.msgAsynchronous)]
      place := h.newPlace ref call }
  | _, _ => { h with vhci := vhci }

/-- One action, if it can happen; an access outside a table ends everything. -/
def step (a : HostAction) (h : Host) : Option Host :=
  match a with
  | .call call qidIn qidOut urbs =>
    match call.run h.vhci with
    | .ok (r, vhci) => some (h.install call qidIn qidOut urbs r vhci)
    | .error _ => none
  | .hubControl r => some { h with vhci := (bceVhciHubControl r h.vhci).2 }
  | .endpoint i a => if a.Own ∧ (a.StartsWork → h.Idle) then h.run i a else none
  | .usbEvent msg =>
    match bceVhciHandleUsbEvent msg h.vhci with
    | .ok (.transferQueue r) => (h.place r).bind fun i => h.run i (.event msg)
    | .ok _ => some h
    | .error _ => none
  | .firmwareEvent msg =>
    if h.Idle then
      match bceVhciHandleFirmwareEvent msg h.vhci with
      | .ok (.resume r) | .ok (.pause r) | .ok (.stall r) =>
        (h.place r).bind fun i => h.run i (.startFirmware msg)
      | .ok .badArgument => some h
      | .error _ => none
    else none
  | .channel a =>
    if a.Device then
      (MessageChannel.step a h.channel).map fun ch =>
        { h with
          msgAsynchronous := ch.mq, next := ch.next, reading := ch.reading, taken := ch.taken }
    else none

end Host

/-- All runs of the host controller, from when it has no devices. -/
def hostSystem : StepSystem Host HostAction where
  init h := h.vhci.devices = .replicate 16 none ∧ h.endpoints = [] ∧ (∀ r, h.place r = none) ∧
    (∃ qid dmaAddr, h.msgAsynchronous = bceVhciMessageQueueCreate qid dmaAddr) ∧
    h.next = 0 ∧ h.reading = 0 ∧ h.taken = []
  step := Host.step

/-- The USB core only gives number zero to the control endpoint. -/
def EndpointCall.Addressed : EndpointCall → Prop
  | .enableDevice _ ep0Address _ _ => ep0Address = 0
  | .addEndpoint _ _ bEndpointAddress _ => bEndpointAddress &&& 0x0F ≠ 0

instance : ∀ c : EndpointCall, Decidable c.Addressed
  | .enableDevice _ ep0Address _ _ => inferInstanceAs (Decidable (ep0Address = 0))
  | .addEndpoint _ _ bEndpointAddress _ =>
    inferInstanceAs (Decidable (bEndpointAddress &&& 0x0F ≠ 0))

def HostAction.Addressed : HostAction → Host → Prop
  | .call c .., _ => c.Addressed
  | _, _ => True

/-- The queues of new endpoints can be created besides. -/
def HostAction.Supplied : HostAction → Host → Prop
  | .call c .., h => c.Created h.vhci ∧ c.Addressed
  | _, _ => True

theorem HostAction.Supplied.addressed {a : HostAction} {h : Host} (hs : a.Supplied h) :
    a.Addressed h := by
  cases a with
  | call => exact hs.2
  | hubControl | endpoint | usbEvent | firmwareEvent | channel => trivial

instance : ∀ a h, Decidable (HostAction.Supplied a h)
  | .call c .., h => inferInstanceAs (Decidable (c.Created h.vhci ∧ c.Addressed))
  | .hubControl _, _ | .endpoint .., _ | .usbEvent _, _ | .firmwareEvent _, _ | .channel _, _ =>
    .isTrue trivial

/-! ## What an action does -/

section Branches

variable {h h' : Host} {a : HostAction}

/-- A step of the transfer queue at `i`, which finds the shared queue in place of its copy. -/
theorem Host.run_eq {i : Nat} {act : EndpointAction} (hrun : h.run i act = some h') :
    ∃ e loaded e', h.endpoints[i]? = some e ∧
      Endpoint.step (.async h.msgAsynchronous []) e = some loaded ∧
      Endpoint.step act loaded = some e' ∧
      h' = { h with
        endpoints := h.endpoints.set i e', msgAsynchronous := e'.q.msgAsynchronous } := by
  obtain ⟨e, he, hrun⟩ := Option.bind_eq_some_iff.mp hrun
  obtain ⟨loaded, hload, hrun⟩ := Option.bind_eq_some_iff.mp hrun
  obtain ⟨e', hstep, hrun⟩ := Option.bind_eq_some_iff.mp hrun
  exact ⟨e, loaded, e', he, hload, hstep, (Option.some.inj hrun).symm⟩

/-- What an action comes to. -/
inductive HostBranch (h : Host) : HostAction → Host → Prop where
  /-- the message is dropped, or is for somebody else -/
  | dropped {a : HostAction} : HostBranch h a h
  | hub {r : HubRequest} :
      HostBranch h (.hubControl r) { h with vhci := (bceVhciHubControl r h.vhci).2 }
  /-- the call creates no transfer queue -/
  | called {call : EndpointCall} {qidIn qidOut : Nat} {urbs : Nat → Urb} {r : EndpointResult}
      {vhci : BceVhci} (hcall : call.run h.vhci = .ok (r, vhci))
      (hnone : call.creates h.vhci = none) :
      HostBranch h (.call call qidIn qidOut urbs) { h with vhci := vhci }
  | created {call : EndpointCall} {qidIn qidOut : Nat} {urbs : Nat → Urb} {r : EndpointResult}
      {vhci : BceVhci} {dir : TqDir} {ref : TqRef} (hcall : call.run h.vhci = .ok (r, vhci))
      (hdir : call.creates h.vhci = some dir) (href : r.hcpriv = some ref) :
      HostBranch h (.call call qidIn qidOut urbs) { h with
        vhci := vhci
        endpoints := h.endpoints ++ [.start (createdTransferQueue call.address ref.devid qidIn
          qidOut call.creation urbs h.msgAsynchronous)]
        place := h.newPlace ref call }
  | ran {a : HostAction} {i : Nat} {act : EndpointAction} {h' : Host}
      (hact : ∀ m w, act ≠ .async m w) (hrun : h.run i act = some h') : HostBranch h a h'
  | channel {l : ChannelAction} {ch : MessageChannel} (hl : l.Device)
      (hstep : MessageChannel.step l h.channel = some ch) :
      HostBranch h (.channel l) { h with
        msgAsynchronous := ch.mq, next := ch.next, reading := ch.reading, taken := ch.taken }

theorem Host.step_branch (hstep : Host.step a h = some h') : HostBranch h a h' := by
  cases a with
  | call call qidIn qidOut urbs =>
    simp only [Host.step] at hstep
    split at hstep
    · next r vhci hcall =>
      obtain rfl := Option.some.inj hstep
      cases EndpointCall.run_effect hcall with
      | none hnone =>
        simp only [Host.install, hnone]
        exact .called hcall hnone
      | enabled _ hdir =>
        simp only [Host.install, hdir]
        exact .created hcall hdir rfl
      | added _ _ _ hdir =>
        simp only [Host.install, hdir]
        exact .created hcall hdir rfl
    · cases hstep
  | hubControl r =>
    obtain rfl := Option.some.inj hstep
    exact .hub
  | endpoint i act =>
    obtain ⟨⟨hown, -⟩, hrun⟩ := Option.ite_none_right_eq_some.mp hstep
    refine .ran ?_ hrun
    rintro m w rfl
    exact hown
  | usbEvent msg =>
    simp only [Host.step] at hstep
    split at hstep
    · obtain ⟨i, -, hrun⟩ := Option.bind_eq_some_iff.mp hstep
      exact .ran (by simp) hrun
    · obtain rfl := Option.some.inj hstep
      exact .dropped
    · cases hstep
  | firmwareEvent msg =>
    obtain ⟨-, hstep⟩ := Option.ite_none_right_eq_some.mp hstep
    split at hstep
    · obtain ⟨i, -, hrun⟩ := Option.bind_eq_some_iff.mp hstep
      exact .ran (by simp) hrun
    · obtain ⟨i, -, hrun⟩ := Option.bind_eq_some_iff.mp hstep
      exact .ran (by simp) hrun
    · obtain ⟨i, -, hrun⟩ := Option.bind_eq_some_iff.mp hstep
      exact .ran (by simp) hrun
    · obtain rfl := Option.some.inj hstep
      exact .dropped
    · cases hstep
  | channel l =>
    obtain ⟨hl, hstep⟩ := Option.ite_none_right_eq_some.mp hstep
    obtain ⟨ch, hch, rfl⟩ := Option.map_eq_some_iff.mp hstep
    exact .channel hl hch

end Branches

/-! ## The transfer queues -/

section Endpoints

variable {h : Host}

/-- A new transfer queue works in the directions the call creates queues for. -/
theorem EndpointCall.creates_dir {call : EndpointCall} {s : BceVhci} {dir : TqDir}
    (hdir : call.creates s = some dir) (haddr : call.Addressed) :
    (dir = .toDevice → call.address &&& 0x0F ≠ 0 ∧ call.address &&& 0x80 = 0) ∧
      (dir = .fromDevice → call.address &&& 0x0F ≠ 0 ∧ call.address &&& 0x80 ≠ 0) := by
  cases call with
  | enableDevice portnum ep0Address create c =>
    simp only [EndpointCall.creates] at hdir
    split at hdir
    · cases hdir
      exact ⟨by simp, by simp⟩
    · cases hdir
  | addEndpoint rootHub portnum bEndpointAddress c =>
    simp only [EndpointCall.creates] at hdir
    split at hdir
    · cases hdir
    split at hdir
    · cases hdir
    split at hdir
    · cases hdir
    obtain rfl := Option.some.inj hdir
    split
    · next hin => exact ⟨by simp, fun _ => ⟨haddr, hin⟩⟩
    · next hout => exact ⟨fun _ => ⟨haddr, not_not.mp hout⟩, by simp⟩

/-- With all its queues, a new transfer queue is as `bce_vhci_create_transfer_queue` is
meant to leave it. -/
theorem createdTransferQueue_eq {call : EndpointCall} {dir : TqDir} (haddr : call.Addressed)
    (hdir : call.creates h.vhci = some dir) (hcreated : call.Created h.vhci)
    (devAddr qidIn qidOut : Nat) (urbs : Nat → Urb) (m : BceVhciMessageQueue) :
    createdTransferQueue call.address devAddr qidIn qidOut call.creation urbs m =
      bceVhciCreateTransferQueue call.address devAddr qidIn qidOut urbs m [] := by
  obtain ⟨-, hin, hout⟩ := hcreated dir hdir
  obtain ⟨hto, hfrom⟩ := EndpointCall.creates_dir hdir haddr
  have hsqs : (createdTransferQueue call.address devAddr qidIn qidOut call.creation urbs m).sqs =
      (bceVhciCreateTransferQueue call.address devAddr qidIn qidOut urbs m []).sqs := by
    funext d
    cases d with
    | fromDevice =>
      by_cases hd : dir = .toDevice
      · simp [createdTransferQueue, bceVhciCreateTransferQueue, hto hd]
      · simp [createdTransferQueue, hin hd]
    | toDevice =>
      by_cases hd : dir = .fromDevice
      · simp [createdTransferQueue, bceVhciCreateTransferQueue, hfrom hd]
      · simp [createdTransferQueue, hout hd]
  exact congrArg (fun sqs =>
    { bceVhciCreateTransferQueue call.address devAddr qidIn qidOut urbs m [] with sqs := sqs }) hsqs

/-- **Each transfer queue is a run of one endpoint.** However the contexts of all transfer
queues interleave, and whatever is created meanwhile. -/
theorem host_endpoint_reachable {i : Nat} {e : Endpoint}
    (hreach : hostSystem.Reachable HostAction.Supplied h) (he : h.endpoints[i]? = some e) :
    endpointSystem.Reachable (fun _ _ => True) e := by
  refine StepSystem.Reachable.part (fun i (h : Host) => h.endpoints[i]?) ?_ ?_ hreach he
  · rintro h ⟨-, hnone, -⟩ i e he
    rw [hnone] at he
    cases he
  · intro a h h' _ hsupplied hstep i e' he'
    cases Host.step_branch hstep with
    | dropped | hub | called | channel => exact .inr ⟨e', he', .refl⟩
    | @created call qidIn qidOut urbs r vhci dir ref hcall hdir href =>
      rcases getElem?_concat he' with hold | ⟨-, rfl⟩
      · exact .inr ⟨e', hold, .refl⟩
      · refine .inl ⟨call.address, ref.devid, qidIn, qidOut, urbs, h.msgAsynchronous, [], ?_⟩
        rw [createdTransferQueue_eq hsupplied.2 hdir hsupplied.1]
    | @ran _ j act _ hact hrun =>
      obtain ⟨e, loaded, e₁, he, hload, hact, rfl⟩ := Host.run_eq hrun
      by_cases hij : j = i
      · subst hij
        have hlt : j < h.endpoints.length := (List.getElem?_eq_some_iff.mp he).1
        obtain rfl : e₁ = e' := by simpa [hlt] using he'
        refine .inr ⟨e, he, .trans ?_ (StepSystem.Steps.one (A := endpointSystem) trivial hact)⟩
        exact StepSystem.Steps.one (A := endpointSystem) (l := .async h.msgAsynchronous [])
          trivial hload
      · exact .inr ⟨e', by simpa [hij] using he', .refl⟩

end Endpoints

/-- A host controller without devices. -/
def Host.fresh : Host where
  vhci := .zero
  endpoints := []
  place := fun _ => none
  msgAsynchronous := bceVhciMessageQueueCreate 4 0
  next := 0
  reading := 0
  taken := []

theorem Host.fresh_init : hostSystem.init .fresh :=
  ⟨rfl, rfl, fun _ => rfl, ⟨4, 0, rfl⟩, rfl, rfl, rfl⟩

/-- A device with two bulk endpoints: a URB is enqueued on each, and the device has read
the request for the first. -/
def twoBulkEndpoints : Host :=
  hostSystem.after HostAction.Supplied
    [.call (.enableDevice 1 0 ⟨0, 1⟩ ⟨true, true, true⟩) 5 6 fun _ => blankUrb,
      .call (.addEndpoint false 1 0x81 ⟨true, true, false⟩) 7 8 fun _ => blankUrb,
      .call (.addEndpoint false 1 0x82 ⟨true, true, false⟩) 9 10 fun _ => blankUrb,
      .endpoint 2 (.enqueue 0 ⟨true, 8, 0, 0⟩ 0), .endpoint 1 (.enqueue 0 ⟨true, 16, 0, 0⟩ 0),
      .channel .read, .endpoint 2 .lockStep, .endpoint 1 .lockStep] .fresh

theorem twoBulkEndpoints_reachable :
    hostSystem.Reachable HostAction.Supplied twoBulkEndpoints :=
  .after (.of_init Host.fresh_init) (by decide +kernel)

/-- Both bulk endpoints are runs of an endpoint. -/
theorem host_endpoint_reachable_two :
    (∃ e, twoBulkEndpoints.endpoints[1]? = some e ∧
      endpointSystem.Reachable (fun _ _ => True) e) ∧
    ∃ e, twoBulkEndpoints.endpoints[2]? = some e ∧
      endpointSystem.Reachable (fun _ _ => True) e := by
  have hlength : twoBulkEndpoints.endpoints.length = 3 := by decide +kernel
  have hget : ∀ i < 3, ∃ e, twoBulkEndpoints.endpoints[i]? = some e :=
    fun i hi => ⟨_, List.getElem?_eq_getElem (hlength.symm ▸ hi)⟩
  obtain ⟨e, he⟩ := hget 1 (by decide)
  obtain ⟨e', he'⟩ := hget 2 (by decide)
  exact ⟨⟨e, he, host_endpoint_reachable twoBulkEndpoints_reachable he⟩,
    e', he', host_endpoint_reachable twoBulkEndpoints_reachable he'⟩

end BceDriver
