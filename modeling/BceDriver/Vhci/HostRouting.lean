import BceDriver.Vhci.Announce
import BceDriver.Vhci.Host

/-!
# Events find their endpoint

The number in `param1` of a message is that of a device and of an endpoint; a transfer
queue puts its own into its requests, and an event that comes back with it is routed
through the tables.

- `Placed`: the entries of the tables, and the transfer queues they are.
- `host_events_routed`: an event goes to the transfer queue it names, and one with the
  number of a transfer queue's own requests goes to that queue while the tables have it.
-/

namespace BceDriver

/-- The tables lead to the transfer queues. -/
structure Placed (h : Host) : Prop where
  control : h.vhci.HasControl
  table : ∀ r, (∃ i, h.place r = some i) ↔ h.vhci.HasTq r
  queue : ∀ r i, h.place r = some i → ∃ e, h.endpoints[i]? = some e ∧ e.q.devAddr = r.devid ∧
    bceVhciEndpointIndex e.q.bEndpointAddress = r.endp

section Tables

variable {h h' : Host} {s s' : BceVhci}

theorem hubControl_devices (r : HubRequest) (s : BceVhci) :
    (bceVhciHubControl r s).2.devices = s.devices := by
  have heffect := hubControl_effect r s
  generalize (bceVhciHubControl r s).2 = s' at heffect
  cases heffect <;> rfl

/-- An added endpoint is at its index. -/
theorem addEndpoint_hcpriv {rootHub : Bool} {portnum addr : Nat} {c : TqCreation}
    {r : EndpointResult} {ref : TqRef}
    (h : bceVhciAddEndpoint rootHub portnum addr c s = .ok (r, s')) (href : r.hcpriv = some ref) :
    ref.endp = bceVhciEndpointIndex addr := by
  unfold bceVhciAddEndpoint at h
  obtain ⟨devid, -, h⟩ := Except.bind_eq_ok_iff.mp h
  obtain ⟨dev, -, h⟩ := Except.bind_eq_ok_iff.mp h
  cases rootHub with
  | true =>
    cases h
    cases href
  | false =>
    cases dev with
    | none =>
      cases h
      cases href
    | some vdev =>
      simp only [Bool.false_eq_true, if_false] at h
      split at h
      · cases h
        cases href
        rfl
      · obtain ⟨q, -, h⟩ := Except.bind_eq_ok_iff.mp h
        obtain ⟨tq, -, h⟩ := Except.bind_eq_ok_iff.mp h
        obtain ⟨devices, -, h⟩ := Except.bind_eq_ok_iff.mp h
        cases h
        cases href
        rfl

/-- Only a new device gets queues of both directions. -/
theorem EndpointCall.creates_bidirectional {call : EndpointCall}
    (hdir : call.creates s = some .bidirectional) :
    ∃ portnum ep0Address create c, call = .enableDevice portnum ep0Address create c := by
  cases call with
  | enableDevice portnum ep0Address create c => exact ⟨portnum, ep0Address, create, c, rfl⟩
  | addEndpoint rootHub portnum bEndpointAddress c =>
    simp only [EndpointCall.creates] at hdir
    split at hdir
    · cases hdir
    split at hdir
    · cases hdir
    split at hdir
    · cases hdir
    split at hdir <;> cases hdir

/-- A queue of a device is there exactly if its bit is set. -/
theorem hasTq_iff {devid e : Nat} {dev : BceVhciDevice}
    (hdev : s.devices[devid]? = some (some dev)) :
    s.HasTq ⟨devid, e⟩ ↔ hasBit dev.tqMask e = true ∧ e < 32 := by
  constructor
  · rintro ⟨dev', hdev', hbit, he⟩
    obtain rfl : dev = dev' := by simpa [hdev] using hdev'
    exact ⟨hbit, he⟩
  · rintro ⟨hbit, he⟩
    exact ⟨dev, hdev, hbit, he⟩

/-- The queues of a device with one more. -/
theorem hasTq_publish {devid e : Nat} {dev : BceVhciDevice} {q : BceVhciTq} (hdev : devid < 16)
    (he : e < 32) (hs' : s'.devices = s.devices.set devid (some (dev.publish e he q)))
    (r : TqRef) : s'.HasTq r ↔ r = ⟨devid, e⟩ ∨
      (r.devid = devid ∧ hasBit dev.tqMask r.endp = true ∧ r.endp < 32) ∨
      (r.devid ≠ devid ∧ s.HasTq r) := by
  obtain ⟨devid', e'⟩ := r
  by_cases hsame : devid' = devid
  · subst hsame
    have hget : s'.devices[devid']? = some (some (dev.publish e he q)) := by
      rw [hs', Vector.getElem?_set_self]
    rw [hasTq_iff hget]
    constructor
    · rintro ⟨hbit, he'⟩
      rcases (hasBit_setBit_iff he he').mp hbit with rfl | hold
      · exact .inl rfl
      · exact .inr (.inl ⟨rfl, hold, he'⟩)
    · rintro (hnew | ⟨-, hold, he'⟩ | ⟨hne, -⟩)
      · obtain rfl : e' = e := congrArg TqRef.endp hnew
        exact ⟨(hasBit_setBit_iff he he).mpr (.inl rfl), he⟩
      · exact ⟨(hasBit_setBit_iff he he').mpr (.inr hold), he'⟩
      · exact absurd rfl hne
  · have hiff : s'.HasTq ⟨devid', e'⟩ ↔ s.HasTq ⟨devid', e'⟩ := by
      unfold BceVhci.HasTq
      rw [hs', Vector.getElem?_set_ne hdev (Ne.symm hsame)]
    rw [hiff]
    refine ⟨fun h => .inr (.inr ⟨hsame, h⟩), ?_⟩
    rintro (hnew | ⟨heq, -⟩ | ⟨-, h⟩)
    · exact absurd (congrArg TqRef.devid hnew) hsame
    · exact absurd heq hsame
    · exact h

theorem hasBit_zero (e : Nat) (he : e < 32) : hasBit BceVhciDevice.zero.tqMask e = false := by
  rw [hasBit_eq _ (by omega)]
  simp [BceVhciDevice.zero]

end Tables

/-! ## The numbers in a message -/

section Names

variable {s : BceVhci} {msg : BceVhciMessage} {r : TqRef}

/-- An endpoint address without the bits that mean nothing has the same index. -/
theorem bceVhciEndpointIndex_and (addr : Nat) :
    bceVhciEndpointIndex (addr &&& 0x8F) = bceVhciEndpointIndex addr := by
  have hin : addr &&& 0x8F &&& 0x80 = addr &&& 0x80 := by
    rw [Nat.and_assoc]
    rfl
  have hnum : addr &&& 0x8F &&& 0xf = addr &&& 0xf := by
    rw [Nat.and_assoc]
    rfl
  unfold bceVhciEndpointIndex
  rw [hin, hnum]

theorem findTransferQueue_iff (param1 : Nat) : findTransferQueue param1 s = .ok (some r) ↔
    r = ⟨param1 % 256, bceVhciEndpointIndex (param1 / 256 % 256)⟩ ∧ s.HasTq r := by
  constructor
  · intro h
    refine ⟨?_, findTransferQueue_some h⟩
    unfold findTransferQueue at h
    obtain ⟨dev, -, h⟩ := Except.bind_eq_ok_iff.mp h
    cases dev with
    | none => cases h
    | some dev =>
      simp only at h
      split at h
      · cases h
      · obtain ⟨t, -, h⟩ := Except.bind_eq_ok_iff.mp h
        cases h
        rfl
  · rintro ⟨rfl, dev, hget, hbit, hlt⟩
    unfold findTransferQueue
    refine Except.bind_eq_ok_iff.mpr ⟨some dev, Table.get_eq_ok_iff.mpr hget, ?_⟩
    obtain ⟨t, ht⟩ := Table.returns_get_iff (e := VhciTable.tq) (t := dev.tq).mpr hlt
    simp only [hbit, Bool.not_true, Bool.false_eq_true, if_false]
    exact Except.bind_eq_ok_iff.mpr ⟨t, ht, rfl⟩

theorem usbEvent_iff : bceVhciHandleUsbEvent msg s = .ok (.transferQueue r) ↔
    (msg.cmd = BCE_VHCI_CMD_TRANSFER_REQUEST ∨
      msg.cmd = BCE_VHCI_CMD_CONTROL_TRANSFER_STATUS) ∧
    findTransferQueue msg.param1 s = .ok (some r) := by
  unfold bceVhciHandleUsbEvent
  split
  · next hset =>
    refine iff_of_false nofun ?_
    -- a command with bit 15 set is none of those that look a queue up
    rintro ⟨hcmd | hcmd, -⟩ <;> exact absurd hset (by rw [hcmd]; decide)
  · split
    · next hcmd =>
      rw [Except.bind_eq_ok_iff]
      constructor
      · rintro ⟨found, hfind, hok⟩
        cases found with
        | none => cases hok
        | some ref =>
          cases hok
          exact ⟨hcmd, hfind⟩
      · exact fun ⟨_, hfind⟩ => ⟨some r, hfind, rfl⟩
    · next hcmd => exact iff_of_false nofun fun h => hcmd h.1

/-- The numbers in a transfer queue's requests are its own. -/
theorem announcement_names (q : BceVhciTransferQueue) (e : TransferElement)
    (hdev : q.devAddr < 256) :
    (q.announcement e).param1 % 256 = q.devAddr ∧
      bceVhciEndpointIndex ((q.announcement e).param1 / 256 % 256) =
        bceVhciEndpointIndex q.bEndpointAddress := by
  have hparam : (q.announcement e).param1 = q.endpAddr * 256 + q.devAddr := by
    show q.endpAddr <<< 8 ||| q.devAddr = _
    rw [← Nat.shiftLeft_add_eq_or_of_lt hdev, Nat.shiftLeft_eq]
  have hlt : q.endpAddr < 256 := Nat.lt_of_le_of_lt Nat.and_le_right (by decide)
  rw [hparam, ← bceVhciEndpointIndex_and q.bEndpointAddress]
  refine ⟨by omega, congrArg bceVhciEndpointIndex ?_⟩
  show (q.endpAddr * 256 + q.devAddr) / 256 % 256 = q.endpAddr
  omega

end Names

/-! ## Every step -/

section Steps

variable {h h' : Host} {s : BceVhci}

/-- A transfer queue goes on, and stays the one it is. -/
theorem Placed.ran (hplaced : Placed h) {i : Nat} {act : EndpointAction}
    (hact : ∀ m w, act ≠ .async m w) (hrun : h.run i act = some h') : Placed h' := by
  obtain ⟨e, loaded, e', he, hload, hstep, rfl⟩ := Host.run_eq hrun
  cases (step_branch hload).2
  obtain ⟨es, hes⟩ := step_announced hstep hact rfl
  refine ⟨hplaced.control, hplaced.table, fun r j hj => ?_⟩
  obtain ⟨e₁, he₁, hdev, hendp⟩ := hplaced.queue r j hj
  by_cases hij : i = j
  · subst hij
    obtain rfl : e = e₁ := Option.some.inj (he.symm.trans he₁)
    have hlt : i < h.endpoints.length := (List.getElem?_eq_some_iff.mp he).1
    refine ⟨e', by simp [hlt], hes.devAddr.trans hdev, ?_⟩
    rw [show e'.q.bEndpointAddress = e.q.bEndpointAddress from hes.bEndpointAddress, hendp]
  · exact ⟨e₁, by simpa [hij] using he₁, hdev, hendp⟩

/-- The transfer queues before a new one are where they were. -/
theorem Placed.queue_append (hplaced : Placed h) (new : Endpoint) {r : TqRef} {i : Nat}
    (hr : h.place r = some i) : ∃ e, (h.endpoints ++ [new])[i]? = some e ∧
      e.q.devAddr = r.devid ∧ bceVhciEndpointIndex e.q.bEndpointAddress = r.endp := by
  obtain ⟨e, he, hwho⟩ := hplaced.queue r i hr
  refine ⟨e, ?_, hwho⟩
  rw [List.getElem?_append_left (List.getElem?_eq_some_iff.mp he).1]
  exact he

theorem Placed.created (hplaced : Placed h) {call : EndpointCall} {qidIn qidOut : Nat}
    {urbs : Nat → Urb} {r : EndpointResult} {vhci : BceVhci} {dir : TqDir} {ref : TqRef}
    (haddr : call.Addressed) (hcall : call.run h.vhci = .ok (r, vhci))
    (hdir : call.creates h.vhci = some dir) (href : r.hcpriv = some ref) :
    Placed { h with
      vhci := vhci
      endpoints := h.endpoints ++ [.start (createdTransferQueue call.address ref.devid qidIn
        qidOut call.creation urbs h.msgAsynchronous)]
      place := h.newPlace ref call } := by
  have heffect := EndpointCall.run_effect hcall
  have hcontrol := heffect.hasControl hplaced.control
  cases heffect with
  | none hnone =>
    rw [hnone] at hdir
    cases hdir
  | @enabled devid addr ports q hdev hbi =>
    -- a new device, whose only entry is that of the control endpoint
    obtain rfl : (⟨devid, 0⟩ : TqRef) = ref := Option.some.inj href
    obtain ⟨portnum, ep0Address, create, c, rfl⟩ := EndpointCall.creates_bidirectional hbi
    refine ⟨hcontrol, fun r' => ?_, fun r' i hr' => ?_⟩
    · rw [hasTq_publish (s := h.vhci) hdev (by decide) rfl r']
      simp only [Host.newPlace]
      split
      · next heq => exact iff_of_true ⟨_, rfl⟩ (.inl heq)
      · next hne =>
        split
        · next hdevid =>
          refine iff_of_false (by simp) ?_
          rintro (heq | ⟨-, hbit, hlt⟩ | ⟨hother, -⟩)
          · exact hne heq
          · rw [hasBit_zero _ hlt] at hbit
            cases hbit
          · exact hother hdevid
        · next hdevid =>
          rw [hplaced.table r']
          simp [hne, hdevid]
    · simp only [Host.newPlace] at hr'
      split at hr'
      · next heq =>
        obtain rfl := Option.some.inj hr'
        refine ⟨_, List.getElem?_concat_length, ?_, ?_⟩
        · rw [heq]
          rfl
        · rw [heq]
          exact (congrArg bceVhciEndpointIndex haddr).trans rfl
      · split at hr'
        · cases hr'
        · exact hplaced.queue_append _ hr'
  | @added devid addr e dev dir' q hdev he hold hdir' hnew hof =>
    obtain rfl : (⟨devid, e⟩ : TqRef) = ref := Option.some.inj href
    cases call with
    | enableDevice portnum ep0Address create c =>
      -- the control endpoint of a device is there already
      obtain rfl : e = 0 := by
        by_contra hne
        simp only [EndpointCall.creates] at hdir'
        obtain ⟨-, hbi⟩ := Option.ite_none_right_eq_some.mp hdir'
        obtain rfl := Option.some.inj hbi
        have hnone := hof hne
        unfold tqDirOf at hnone
        rw [if_neg hne] at hnone
        split at hnone <;> cases hnone
      rw [hplaced.control _ _ hold] at hnew
      cases hnew
    | addEndpoint rootHub portnum bEndpointAddress c =>
      have hendp : e = bceVhciEndpointIndex bEndpointAddress := addEndpoint_hcpriv hcall href
      refine ⟨hcontrol, fun r' => ?_, fun r' i hr' => ?_⟩
      · rw [hasTq_publish (s := h.vhci) hdev he rfl r']
        simp only [Host.newPlace]
        split
        · next heq => exact iff_of_true ⟨_, rfl⟩ (.inl heq)
        · next hne =>
          rw [hplaced.table r']
          obtain ⟨devid', e'⟩ := r'
          by_cases hdevid : devid' = devid
          · subst hdevid
            rw [hasTq_iff hold]
            simp [hne]
          · simp [hne, hdevid]
      · simp only [Host.newPlace] at hr'
        split at hr'
        · next heq =>
          obtain rfl := Option.some.inj hr'
          refine ⟨_, List.getElem?_concat_length, ?_, ?_⟩
          · rw [heq]
            rfl
          · rw [heq]
            exact hendp.symm
        · exact hplaced.queue_append _ hr'

theorem Placed.step (hplaced : Placed h) {a : HostAction}
    (haddr : HostAction.Addressed a h) (hstep : Host.step a h = some h') : Placed h' := by
  cases Host.step_branch hstep with
  | dropped => exact hplaced
  | channel => exact ⟨hplaced.control, hplaced.table, hplaced.queue⟩
  | hub =>
    have hdevices := hubControl_devices ‹_› h.vhci
    refine ⟨?_, fun r => (hplaced.table r).trans ?_, hplaced.queue⟩
    · unfold BceVhci.HasControl
      rw [hdevices]
      exact hplaced.control
    · unfold BceVhci.HasTq
      rw [hdevices]
  | called hcall hnone =>
    cases EndpointCall.run_effect hcall with
    | none => exact ⟨hplaced.control, hplaced.table, hplaced.queue⟩
    | enabled _ hdir | added _ _ _ hdir =>
      rw [hnone] at hdir
      cases hdir
  | created hcall hdir href => exact hplaced.created haddr hcall hdir href
  | ran hact hrun => exact hplaced.ran hact hrun

theorem reachable_placed (hreach : hostSystem.Reachable HostAction.Addressed h) : Placed h := by
  refine hreach.invariant (I := Placed) ?_ fun a h h' _ hplaced haddr hstep =>
    hplaced.step haddr hstep
  rintro h ⟨hdevices, -, hplace, -⟩
  have hnone : ∀ (devid : Nat) (dev : BceVhciDevice),
      h.vhci.devices[devid]? ≠ some (some dev) := by
    intro devid dev hget
    rw [hdevices] at hget
    obtain ⟨hlt, hget⟩ := Vector.getElem?_eq_some_iff.mp hget
    simp at hget
  refine ⟨fun devid dev hget => absurd hget (hnone devid dev), fun r => ?_, fun r i hr => ?_⟩
  · refine iff_of_false ?_ fun ⟨dev, hget, _⟩ => hnone _ dev hget
    rintro ⟨i, hi⟩
    rw [hplace] at hi
    cases hi
  · rw [hplace] at hr
    cases hr

/-- **Events are routed by the numbers they carry.** In every run of the host controller
in which only control endpoints get number zero: an event that is routed to a transfer
queue reaches one whose device and endpoint are those in its `param1`; and a
`TRANSFER_REQUEST` or `CONTROL_TRANSFER_STATUS` with the `param1` of a transfer queue's own
requests is routed to that queue, as long as the tables have it. -/
theorem host_events_routed (hreach : hostSystem.Reachable HostAction.Addressed h) :
    (∀ msg r, bceVhciHandleUsbEvent msg h.vhci = .ok (.transferQueue r) →
      ∃ i e, h.place r = some i ∧ h.endpoints[i]? = some e ∧ e.q.devAddr = msg.param1 % 256 ∧
        bceVhciEndpointIndex e.q.bEndpointAddress =
          bceVhciEndpointIndex (msg.param1 / 256 % 256) ∧
        Host.step (.usbEvent msg) h = h.run i (.event msg)) ∧
    ∀ r i e, h.place r = some i → h.endpoints[i]? = some e → ∀ msg el,
      msg.cmd = BCE_VHCI_CMD_TRANSFER_REQUEST ∨
        msg.cmd = BCE_VHCI_CMD_CONTROL_TRANSFER_STATUS →
      msg.param1 = (e.q.announcement el).param1 →
        Host.step (.usbEvent msg) h = h.run i (.event msg) := by
  have hplaced := reachable_placed hreach
  refine ⟨fun msg r hok => ?_, fun r i e hr he msg el hcmd hparam => ?_⟩
  · obtain ⟨rfl, hhas⟩ := (findTransferQueue_iff _).mp (usbEvent_iff.mp hok).2
    obtain ⟨i, hi⟩ := (hplaced.table _).mpr hhas
    obtain ⟨e, he, hdev, hindex⟩ := hplaced.queue _ i hi
    refine ⟨i, e, hi, he, hdev, hindex, ?_⟩
    simp only [Host.step, hok, hi, Option.bind_some]
  · obtain ⟨e', he', hdev, hindex⟩ := hplaced.queue r i hr
    obtain rfl : e = e' := Option.some.inj (he.symm.trans he')
    have hhas := (hplaced.table r).mp ⟨i, hr⟩
    have hlt : e.q.devAddr < 256 := by
      obtain ⟨dev, hget, -⟩ := hhas
      have hrow := (Vector.getElem?_eq_some_iff.mp hget).1
      omega
    obtain ⟨hmod, hdiv⟩ := announcement_names e.q el hlt
    have hfound : findTransferQueue msg.param1 h.vhci = .ok (some r) := by
      refine (findTransferQueue_iff _).mpr ⟨?_, hhas⟩
      rw [hparam, hmod, hdiv, hdev, hindex]
    simp only [Host.step, usbEvent_iff.mpr ⟨hcmd, hfound⟩, hr, Option.bind_some]

end Steps

/-- The answer to a request of the second bulk endpoint goes to it. -/
theorem host_events_routed_two :
    Host.step (.usbEvent ⟨BCE_VHCI_CMD_TRANSFER_REQUEST, 0, 0x8201, 8⟩) twoBulkEndpoints =
      twoBulkEndpoints.run 2 (.event ⟨BCE_VHCI_CMD_TRANSFER_REQUEST, 0, 0x8201, 8⟩) := by
  have hparam : (twoBulkEndpoints.endpoints[2]?.map fun e =>
      (e.q.announcement ⟨0, .data, 0, 8⟩).param1) = some 0x8201 := by decide +kernel
  obtain ⟨e, he, hparam⟩ := Option.map_eq_some_iff.mp hparam
  have hreach : hostSystem.Reachable HostAction.Addressed twoBulkEndpoints :=
    twoBulkEndpoints_reachable.mono fun _ _ hs => hs.addressed
  exact (host_events_routed hreach).2 ⟨1, 0x12⟩ 2 e (by decide +kernel) he _
    ⟨0, .data, 0, 8⟩ (.inl rfl) hparam.symm

end BceDriver
