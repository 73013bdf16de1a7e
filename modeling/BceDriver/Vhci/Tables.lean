import BceDriver.Vhci.Controller
import BceDriver.Vhci.Hub

/-!
# The tables of devices and transfer queues

An endpoint number of a message is masked to four bits and a direction, so that it is
always inside `tq`; a device number has eight bits, and `devices` sixteen entries.

- `findTransferQueue_returns_iff`: what the handlers of events share.
- `vhci_tables_iff`: the result, for the three paths that use a number the firmware
  chose.
-/

namespace BceDriver

/-! ## Endpoint numbers -/

/-- The index of an endpoint is inside `tq`. -/
theorem bceVhciEndpointIndex_lt (addr : Nat) : bceVhciEndpointIndex addr < 32 := by
  have hlow : addr &&& 0xf < 16 := Nat.and_lt_two_pow addr (n := 4) (by decide)
  unfold bceVhciEndpointIndex
  split <;> omega

/-- The device number of a message. -/
def BceVhciMessage.devid (msg : BceVhciMessage) : Nat := msg.param1 % 256

/-- The controller has the transfer queue, and its bit is set. -/
def BceVhci.HasTq (s : BceVhci) (q : TqRef) : Prop :=
  ∃ dev, s.devices[q.devid]? = some (some dev) ∧ hasBit dev.tqMask q.endp = true ∧ q.endp < 32

section Find

variable {s : BceVhci} {param1 : Nat} {q : TqRef}

/-- Finding a transfer queue leads out of a table exactly if the device number does. -/
theorem findTransferQueue_returns_iff :
    Returns (findTransferQueue param1 s) ↔ param1 % 256 < 16 := by
  unfold findTransferQueue
  rw [returns_bind, ← Table.returns_get_iff (e := VhciTable.devices) (t := s.devices)]
  constructor
  · rintro ⟨dev, hget, -⟩
    exact ⟨dev, hget⟩
  · rintro ⟨dev, hget⟩
    refine ⟨dev, hget, ?_⟩
    cases dev with
    | none => exact returns_ok _
    | some dev =>
      simp only
      split
      · exact returns_ok _
      · obtain ⟨t, ht⟩ := Table.returns_get_iff (e := VhciTable.tq) (t := dev.tq).mpr
          (bceVhciEndpointIndex_lt _)
        exact returns_bind.mpr ⟨t, ht, returns_ok _⟩

/-- So does whatever goes on from there without another access. -/
theorem returns_find_bind_iff {α : Type} {f : Option TqRef → Except VhciTable α}
    (hf : ∀ found, Returns (f found)) :
    Returns (findTransferQueue param1 s >>= f) ↔ param1 % 256 < 16 := by
  rw [← findTransferQueue_returns_iff (s := s), returns_bind]
  exact ⟨fun ⟨found, hfind, _⟩ => ⟨found, hfind⟩, fun ⟨found, hfind⟩ => ⟨found, hfind, hf found⟩⟩

/-- What is found has its bit set. -/
theorem findTransferQueue_some (h : findTransferQueue param1 s = .ok (some q)) : s.HasTq q := by
  unfold findTransferQueue at h
  obtain ⟨dev, hget, h⟩ := Except.bind_eq_ok_iff.mp h
  cases dev with
  | none => cases h
  | some dev =>
    simp only at h
    split at h
    · cases h
    · next hbit =>
      obtain ⟨t, -, h⟩ := Except.bind_eq_ok_iff.mp h
      cases h
      exact ⟨dev, Table.get_eq_ok_iff.mp hget, by simpa using hbit, bceVhciEndpointIndex_lt _⟩

end Find

/-! ## The three paths -/

/-- A call that uses a number the firmware chose. -/
inductive VhciCall where
  | usbEvent (msg : BceVhciMessage)
  | firmwareEvent (msg : BceVhciMessage)
  | enableDevice (portnum ep0Address : Nat) (create : CommandOutcome) (c : TqCreation)
deriving DecidableEq, Repr

/-- The transfer queue a message is delivered to. -/
def VhciDelivery.queue : VhciDelivery → Option TqRef
  | .transferQueue q => some q
  | .command | .dropped => none

/-- The transfer queue a firmware event is about. -/
def FirmwareAction.queue : FirmwareAction → Option TqRef
  | .resume q | .pause q | .stall q => some q
  | .badArgument => none

/-- The call: the transfer queue it reaches, and the controller it leaves. -/
def VhciCall.run (s : BceVhci) : VhciCall → Except VhciTable (Option TqRef × BceVhci)
  | .usbEvent msg => do return ((← bceVhciHandleUsbEvent msg s).queue, s)
  | .firmwareEvent msg => do return ((← bceVhciHandleFirmwareEvent msg s).queue, s)
  | .enableDevice portnum ep0Address create c => do
    let r ← bceVhciEnableDevice portnum ep0Address create c s
    return (r.1.hcpriv, r.2)

/-- The device number is one of the table, where it is used. -/
def VhciCall.InRange (s : BceVhci) : VhciCall → Prop
  | .usbEvent msg =>
    msg.cmd = BCE_VHCI_CMD_TRANSFER_REQUEST ∨ msg.cmd = BCE_VHCI_CMD_CONTROL_TRANSFER_STATUS →
      msg.devid < 16
  | .firmwareEvent msg =>
    msg.cmd = BCE_VHCI_CMD_ENDPOINT_REQUEST_STATE ∨ msg.cmd = BCE_VHCI_CMD_ENDPOINT_SET_STATE →
      msg.devid < 16
  | .enableDevice portnum _ create _ =>
    ∃ h : portnum < 16, s.portToDevice[portnum] = 0 → create.status = 0 → create.param2 % 256 < 16

/-- The call stays inside the tables, and reaches no queue whose bit is not set. -/
def VhciCall.Safe (s : BceVhci) (call : VhciCall) : Prop :=
  ∃ q s', call.run s = .ok (q, s') ∧ ∀ ref, q = some ref → s'.HasTq ref

section Paths

variable {s : BceVhci} {msg : BceVhciMessage}

/-- A call that leaves the controller alone is safe if it stays inside the tables and
what it reaches was found. -/
theorem safe_of_found {α : Type} {m : Except VhciTable α} {queue : α → Option TqRef}
    (hfound : ∀ a q, m = .ok a → queue a = some q → s.HasTq q) :
    (∃ q s', (m >>= fun a => (pure (queue a, s) : Except VhciTable (Option TqRef × BceVhci))) =
      .ok (q, s') ∧ ∀ ref, q = some ref → s'.HasTq ref) ↔ Returns m := by
  constructor
  · rintro ⟨q, s', hok, -⟩
    obtain ⟨a, ha, -⟩ := Except.bind_eq_ok_iff.mp hok
    exact ⟨a, ha⟩
  · rintro ⟨a, ha⟩
    exact ⟨queue a, s, Except.bind_eq_ok_iff.mpr ⟨a, ha, rfl⟩, fun ref href => hfound a ref ha href⟩

theorem usbEvent_found {d : VhciDelivery} {q : TqRef} (hok : bceVhciHandleUsbEvent msg s = .ok d)
    (hq : d.queue = some q) : s.HasTq q := by
  unfold bceVhciHandleUsbEvent at hok
  split at hok
  · cases hok
    cases hq
  · split at hok
    · obtain ⟨found, hfind, hok⟩ := Except.bind_eq_ok_iff.mp hok
      cases found with
      | none =>
        cases hok
        cases hq
      | some ref =>
        cases hok
        cases hq
        exact findTransferQueue_some hfind
    · cases hok
      cases hq

theorem usbEvent_returns_iff :
    Returns (bceVhciHandleUsbEvent msg s) ↔ (VhciCall.usbEvent msg).InRange s := by
  -- a command with bit 15 set is none of those that look a queue up
  have hclear : msg.cmd = BCE_VHCI_CMD_TRANSFER_REQUEST ∨
      msg.cmd = BCE_VHCI_CMD_CONTROL_TRANSFER_STATUS → ¬msg.cmd &&& 0x8000 ≠ 0 := by
    rintro (h | h) <;> rw [h] <;> decide
  unfold bceVhciHandleUsbEvent VhciCall.InRange BceVhciMessage.devid
  split
  · next hset => exact ⟨fun _ hcmd => absurd hset (hclear hcmd), fun _ => returns_ok _⟩
  · split
    · next hcmd =>
      refine ⟨fun h _ => (returns_find_bind_iff ?_).mp h,
        fun h => (returns_find_bind_iff ?_).mpr (h hcmd)⟩ <;>
      · intro found
        cases found <;> exact returns_ok _
    · next hcmd => exact ⟨fun _ h => absurd h hcmd, fun _ => returns_ok _⟩

theorem usbEvent_safe_iff : (VhciCall.usbEvent msg).Safe s ↔ (VhciCall.usbEvent msg).InRange s :=
  (safe_of_found fun _ _ => usbEvent_found).trans usbEvent_returns_iff

theorem firmwareEvent_found {a : FirmwareAction} {q : TqRef}
    (hok : bceVhciHandleFirmwareEvent msg s = .ok a) (hq : a.queue = some q) : s.HasTq q := by
  unfold bceVhciHandleFirmwareEvent at hok
  split at hok
  · obtain ⟨found, hfind, hok⟩ := Except.bind_eq_ok_iff.mp hok
    cases found with
    | none =>
      cases hok
      cases hq
    | some ref =>
      -- whatever the request asks for, it is for the queue that was found
      have hat : a.queue = some ref ∨ a.queue = none := by
        simp only at hok
        split at hok
        · split at hok
          · cases hok
            exact .inl rfl
          · split at hok <;> cases hok
            · exact .inl rfl
            · exact .inr rfl
        · split at hok <;> cases hok
          · exact .inl rfl
          · exact .inr rfl
      obtain hat | hat := hat
      · obtain rfl : ref = q := Option.some.inj (hat.symm.trans hq)
        exact findTransferQueue_some hfind
      · cases hat.symm.trans hq
  · cases hok
    cases hq

theorem firmwareEvent_returns_iff :
    Returns (bceVhciHandleFirmwareEvent msg s) ↔ (VhciCall.firmwareEvent msg).InRange s := by
  unfold bceVhciHandleFirmwareEvent VhciCall.InRange BceVhciMessage.devid
  split
  · next hcmd =>
    refine ⟨fun h _ => (returns_find_bind_iff ?_).mp h,
      fun h => (returns_find_bind_iff ?_).mpr (h hcmd)⟩ <;>
    · intro found
      cases found with
      | none => exact returns_ok _
      | some q =>
        simp only
        split
        · split
          · exact returns_ok _
          · split <;> exact returns_ok _
        · split <;> exact returns_ok _
  · next hcmd => exact ⟨fun _ h => absurd h hcmd, fun _ => returns_ok _⟩

theorem firmwareEvent_safe_iff :
    (VhciCall.firmwareEvent msg).Safe s ↔ (VhciCall.firmwareEvent msg).InRange s :=
  (safe_of_found fun _ _ => firmwareEvent_found).trans firmwareEvent_returns_iff

section EnableDevice

variable {portnum devid ep0Address : Nat} {create : CommandOutcome} {c : TqCreation}
variable {r : EndpointResult × BceVhci}

theorem installDevice_returns_iff (hport : portnum < 16) :
    Returns (bceVhciInstallDevice portnum devid ep0Address c s) ↔ devid < 16 := by
  unfold bceVhciInstallDevice
  rw [returns_bind]
  constructor
  · rintro ⟨ports, -, hrest⟩
    obtain ⟨devices, hset, -⟩ := returns_bind.mp hrest
    exact Table.returns_set_iff.mp ⟨devices, hset⟩
  · intro hdev
    obtain ⟨ports, hports⟩ := Table.returns_set_iff.mpr hport
    refine ⟨ports, hports, returns_bind.mpr ?_⟩
    obtain ⟨devices, hdevices⟩ := Table.returns_set_iff.mpr hdev
    refine ⟨devices, hdevices, returns_bind.mpr ?_⟩
    obtain ⟨q, hq⟩ := Table.returns_get_iff.mpr (show 0 < 32 by decide)
    refine ⟨q, hq, returns_bind.mpr ?_⟩
    obtain ⟨tq, htq⟩ := Table.returns_set_iff.mpr (show 0 < 32 by decide)
    refine ⟨tq, htq, returns_bind.mpr ?_⟩
    obtain ⟨devices', hdevices'⟩ := Table.returns_set_iff.mpr hdev
    exact ⟨devices', hdevices', returns_ok _⟩

/-- The new device is in the table, and endpoint zero in its mask. -/
theorem installDevice_hasTq (h : bceVhciInstallDevice portnum devid ep0Address c s = .ok r) :
    ∀ ref, r.1.hcpriv = some ref → r.2.HasTq ref := by
  unfold bceVhciInstallDevice at h
  obtain ⟨ports, -, h⟩ := Except.bind_eq_ok_iff.mp h
  obtain ⟨devices, -, h⟩ := Except.bind_eq_ok_iff.mp h
  obtain ⟨q, -, h⟩ := Except.bind_eq_ok_iff.mp h
  obtain ⟨tq, -, h⟩ := Except.bind_eq_ok_iff.mp h
  obtain ⟨devices', hset, h⟩ := Except.bind_eq_ok_iff.mp h
  obtain ⟨hdev, rfl⟩ := Table.set_eq_ok_iff.mp hset
  cases h
  intro ref href
  cases href
  refine ⟨{ tq, tqMask := setBit BceVhciDevice.zero.tqMask 0 }, ?_, ?_, show 0 < 32 by decide⟩
  · exact Vector.getElem?_set_self hdev
  · show hasBit (setBit (0 : BitVec 32) 0) 0 = true
    decide

theorem enableDevice_safe_iff :
    (VhciCall.enableDevice portnum ep0Address create c).Safe s ↔
      (VhciCall.enableDevice portnum ep0Address create c).InRange s := by
  -- the call reaches the transfer queue it has put into the endpoint
  have hsafe : (VhciCall.enableDevice portnum ep0Address create c).Safe s ↔
      ∃ r, bceVhciEnableDevice portnum ep0Address create c s = .ok r ∧
        ∀ ref, r.1.hcpriv = some ref → r.2.HasTq ref := by
    constructor
    · rintro ⟨q, s', hok, hq⟩
      obtain ⟨r, hr, heq⟩ := Except.bind_eq_ok_iff.mp hok
      cases heq
      exact ⟨r, hr, hq⟩
    · rintro ⟨r, hr, hq⟩
      exact ⟨r.1.hcpriv, r.2, Except.bind_eq_ok_iff.mpr ⟨r, hr, rfl⟩, hq⟩
  rw [hsafe]
  unfold bceVhciEnableDevice VhciCall.InRange
  by_cases hport : portnum < 16
  · have hget : Table.get VhciTable.portToDevice s.portToDevice portnum =
        .ok s.portToDevice[portnum] := by
      rw [Table.get_eq_ok_iff, Vector.getElem?_eq_getElem hport]
    rw [hget]
    show (∃ r, (if s.portToDevice[portnum] ≠ 0 then _ else _) = Except.ok r ∧ _) ↔ _
    split
    · -- the port has its device already, and nothing is created
      next htaken =>
      exact ⟨fun _ => ⟨hport, fun hfree => absurd hfree htaken⟩, fun _ => ⟨_, rfl, nofun⟩⟩
    · next hfree =>
      split
      · next hfailed =>
        exact ⟨fun _ => ⟨hport, fun _ hok => absurd hok hfailed⟩, fun _ => ⟨_, rfl, nofun⟩⟩
      · next hok =>
        constructor
        · rintro ⟨r, hr, -⟩
          exact ⟨hport, fun _ _ => (installDevice_returns_iff hport).mp ⟨r, hr⟩⟩
        · rintro ⟨_, hdev⟩
          obtain ⟨r, hr⟩ := (installDevice_returns_iff hport).mpr
            (hdev (not_not.mp hfree) (not_not.mp hok))
          exact ⟨r, hr, installDevice_hasTq hr⟩
  · constructor
    · rintro ⟨r, hr, -⟩
      obtain ⟨dev, hget, -⟩ := Except.bind_eq_ok_iff.mp hr
      exact absurd (Table.returns_get_iff.mp ⟨dev, hget⟩) hport
    · rintro ⟨h, -⟩
      exact absurd h hport

end EnableDevice

end Paths

/-- **The tables.** For every state of the controller, every message and every reply to
the creation of a device: the path stays inside the tables and reaches no transfer
queue whose bit is not set, exactly if the device number it uses is below 16. -/
theorem vhci_tables_iff (s : BceVhci) (call : VhciCall) : call.Safe s ↔ call.InRange s := by
  cases call with
  | usbEvent msg => exact usbEvent_safe_iff
  | firmwareEvent msg => exact firmwareEvent_safe_iff
  | enableDevice portnum ep0Address create c => exact enableDevice_safe_iff

/-! ## Device 16 -/

/-- A message about device 16, and a reply that creates it, lead out of the table. -/
theorem device_16 :
    ¬(VhciCall.usbEvent ⟨BCE_VHCI_CMD_TRANSFER_REQUEST, 0, 16, 0⟩).Safe .zero ∧
      ¬(VhciCall.firmwareEvent ⟨BCE_VHCI_CMD_ENDPOINT_SET_STATE, 0, 16, 2⟩).Safe .zero ∧
      ¬(VhciCall.enableDevice 1 0 ⟨0, 16⟩ ⟨true, true, true⟩).Safe .zero := by
  refine ⟨fun h => ?_, fun h => ?_, fun h => ?_⟩
  · have hlt : 16 % 256 < 16 := usbEvent_safe_iff.mp h (.inl rfl)
    exact absurd hlt (by decide)
  · have hlt : 16 % 256 < 16 := firmwareEvent_safe_iff.mp h (.inr rfl)
    exact absurd hlt (by decide)
  · obtain ⟨_, hdev⟩ := enableDevice_safe_iff.mp h
    have hlt : 16 % 256 < 16 := hdev rfl rfl
    exact absurd hlt (by decide)

end BceDriver
