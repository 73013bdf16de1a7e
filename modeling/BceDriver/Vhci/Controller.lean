import BceDriver.Lib.Table
import BceDriver.Vhci.CommandQueue
import BceDriver.Vhci.Transfer

/-!
# The host controller (`vhci/vhci.h`, `vhci/vhci.c`)

The hub requests, the tables of devices and transfer queues, and the handlers that
find a transfer queue by the numbers in a message.

- Every access to a table is partial, and faults with the name of the table.
- What a controller command reports is a parameter, as for transfer queues.
- Of a transfer queue in the table only what `bce_vhci_create_transfer_queue` made of
  it is here.
-/

namespace BceDriver

def ENODEV : Int := 19

/-- `BIT`, for a shift that is defined -/
def BIT (n : Nat) : BitVec 64 := 1#64 <<< n

/-- `mask & BIT(n)` -/
def hasBit {w : Nat} (mask : BitVec w) (n : Nat) : Bool := mask.setWidth 64 &&& BIT n ≠ 0

/-- `mask |= BIT(n)`, which drops what `mask` has no room for -/
def setBit {w : Nat} (mask : BitVec w) (n : Nat) : BitVec w :=
  (mask.setWidth 64 ||| BIT n).setWidth w

/-- `mask &= ~BIT(n)` -/
def clearBit {w : Nat} (mask : BitVec w) (n : Nat) : BitVec w :=
  (mask.setWidth 64 &&& ~~~BIT n).setWidth w

/-! ## Data -/

inductive VhciTable where
  | portToDevice
  | devices
  | tq
deriving DecidableEq, Repr

/-- A transfer queue: what it is for, and which of its queues it has. -/
structure BceVhciTq where
  devAddr : Nat
  endpAddr : Nat
  cq : Bool
  sqIn : Bool
  sqOut : Bool
deriving DecidableEq, Repr

structure BceVhciDevice where
  tq : Vector BceVhciTq 32
  tqMask : BitVec 32
deriving DecidableEq, Repr

/-- What `kzalloc` returns. -/
def BceVhciDevice.zero : BceVhciDevice where
  tq := .replicate 32 ⟨0, 0, false, false, false⟩
  tqMask := 0

/-- The port commands. -/
inductive PortCommand where
  | powerOn
  | powerOff
  | resume
  | suspend
  | reset (timeout : Nat)
  | disable
  | status (clearFlags : BitVec 32)
deriving DecidableEq, Repr

structure BceVhci where
  portMask : BitVec 16
  portCount : Nat
  portPowerMask : BitVec 16
  portResetMask : BitVec 16
  portToDevice : Vector Nat 16
  devices : Vector (Option BceVhciDevice) 16
  /-- the port commands sent, each with its port -/
  sent : List (PortCommand × Nat)
deriving DecidableEq, Repr

/-- The controller before it is started, all zero. -/
def BceVhci.zero : BceVhci where
  portMask := 0
  portCount := 0
  portPowerMask := 0
  portResetMask := 0
  portToDevice := .replicate 16 0
  devices := .replicate 16 none
  sent := []

/-! ## Starting -/

/-- The loop that shifts the port mask until nothing is left: how often it does. -/
def portCountOf (portMask : BitVec 16) : Nat :=
  if h : portMask = 0 then 0 else portCountOf (portMask >>> 1) + 1
termination_by portMask.toNat
decreasing_by
  have hne : portMask.toNat ≠ 0 := fun h0 => h (BitVec.eq_of_toNat_eq (by simpa using h0))
  rw [BitVec.toNat_ushiftRight, Nat.shiftRight_one]
  omega

/-- `bce_vhci_start`, given what its two commands report. -/
def bceVhciStart (enable : CommandOutcome) (start : CommandOutcome) (s : BceVhci) :
    Int × BceVhci :=
  if enable.status ≠ 0 then (enable.status, s)
  else
    let s := { s with portMask := .ofNat 16 enable.param2, portPowerMask := 0 }
    if start.status ≠ 0 then (start.status, s)
    else (0, { s with portCount := portCountOf s.portMask })

/-! ## Hub requests -/

inductive HubTypeReq where
  | getHubDescriptor
  | getHubStatus
  | getPortStatus
  | setPortFeature
  | clearPortFeature
  | other (typeReq : Nat)
deriving DecidableEq, Repr

def USB_PORT_FEAT_ENABLE : Nat := 1
def USB_PORT_FEAT_SUSPEND : Nat := 2
def USB_PORT_FEAT_RESET : Nat := 4
def USB_PORT_FEAT_POWER : Nat := 8
def USB_PORT_FEAT_C_CONNECTION : Nat := 16
def USB_PORT_FEAT_C_RESET : Nat := 20

def USB_PORT_STAT_CONNECTION : BitVec 16 := 0x1
def USB_PORT_STAT_ENABLE : BitVec 16 := 0x2
def USB_PORT_STAT_SUSPEND : BitVec 16 := 0x4
def USB_PORT_STAT_OVERCURRENT : BitVec 16 := 0x8
def USB_PORT_STAT_RESET : BitVec 16 := 0x10
def USB_PORT_STAT_POWER : BitVec 16 := 0x100
def USB_PORT_STAT_HIGH_SPEED : BitVec 16 := 0x400
def USB_PORT_STAT_C_CONNECTION : BitVec 16 := 0x1

/-- The arguments of `bce_vhci_hub_control`, with what comes of the command it sends,
if it sends one. -/
structure HubRequest where
  typeReq : HubTypeReq
  wValue : Nat
  wIndex : Nat
  wLength : Nat
  outcome : CommandOutcome
deriving DecidableEq, Repr

/-- What a request leaves in its buffer. -/
inductive HubData where
  | none
  | hubDescriptor (bNbrPorts : Nat)
  | hubStatus
  | portStatus (wPortStatus wPortChange : BitVec 16)
deriving DecidableEq, Repr

structure HubReply where
  status : Int
  data : HubData
deriving DecidableEq, Repr

/-- A port command is sent: its port is eight bits wide. -/
def BceVhci.send (s : BceVhci) (c : PortCommand) (wIndex : Nat) : BceVhci :=
  { s with sent := s.sent ++ [(c, wIndex % 256)] }

/-- `GetPortStatus`, once the controller has reported the status of the port. -/
def hubPortStatus (s : BceVhci) (wIndex : Nat) (portStatus : BitVec 32) : HubData :=
  let flag (bits : BitVec 32) (stat : BitVec 16) : BitVec 16 :=
    if portStatus &&& bits ≠ 0 then stat else 0
  let power := if hasBit s.portPowerMask wIndex then USB_PORT_STAT_POWER else 0
  .portStatus
    (power ||| flag 16 (USB_PORT_STAT_ENABLE ||| USB_PORT_STAT_HIGH_SPEED) |||
      flag 4 USB_PORT_STAT_CONNECTION ||| flag 2 USB_PORT_STAT_OVERCURRENT |||
      flag 8 USB_PORT_STAT_RESET ||| flag 0x60 USB_PORT_STAT_SUSPEND)
    (flag 0x40000 USB_PORT_STAT_C_CONNECTION)

/-- `SetPortFeature`; `none` for a feature that is not handled. -/
def hubSetPortFeature (r : HubRequest) (s : BceVhci) : Option (HubReply × BceVhci) :=
  if r.wValue = USB_PORT_FEAT_POWER then
    let s := s.send .powerOn r.wIndex
    some (⟨r.outcome.status, .none⟩,
      if r.outcome.status = 0 then { s with portPowerMask := setBit s.portPowerMask r.wIndex }
      else s)
  else if r.wValue = USB_PORT_FEAT_RESET then
    -- a device is reset once, whatever comes of it
    if hasBit s.portResetMask r.wIndex then some (⟨0, .none⟩, s)
    else
      let s := { s with portResetMask := setBit s.portResetMask r.wIndex }
      some (⟨r.outcome.status, .none⟩, s.send (.reset r.wValue) r.wIndex)
  else if r.wValue = USB_PORT_FEAT_SUSPEND then
    some (⟨r.outcome.status, .none⟩, s.send .suspend r.wIndex)
  else none

/-- `ClearPortFeature`; `none` for a feature that is not handled. -/
def hubClearPortFeature (r : HubRequest) (s : BceVhci) : Option (HubReply × BceVhci) :=
  if r.wValue = USB_PORT_FEAT_ENABLE then
    some (⟨r.outcome.status, .none⟩, s.send .disable r.wIndex)
  else if r.wValue = USB_PORT_FEAT_POWER then
    let s := s.send .powerOff r.wIndex
    some (⟨r.outcome.status, .none⟩,
      if r.outcome.status = 0 then { s with portPowerMask := clearBit s.portPowerMask r.wIndex }
      else s)
  else if r.wValue = USB_PORT_FEAT_C_CONNECTION then
    some (⟨r.outcome.status, .none⟩, s.send (.status 0x40000) r.wIndex)
  else if r.wValue = USB_PORT_FEAT_C_RESET then some (⟨0, .none⟩, s)
  else if r.wValue = USB_PORT_FEAT_SUSPEND then
    some (⟨r.outcome.status, .none⟩, s.send .resume r.wIndex)
  else none

/-- `bce_vhci_hub_control` -/
def bceVhciHubControl (r : HubRequest) (s : BceVhci) : HubReply × BceVhci :=
  let handled : Option (HubReply × BceVhci) :=
    match r.typeReq with
    | .getHubDescriptor =>
      -- `sizeof(struct usb_hub_descriptor)`
      if 15 ≤ r.wLength then some (⟨0, .hubDescriptor (s.portCount % 256)⟩, s) else none
    | .getHubStatus => if 4 ≤ r.wLength then some (⟨0, .hubStatus⟩, s) else none
    | .getPortStatus =>
      if 4 ≤ r.wLength then
        let s := s.send (.status 0) r.wIndex
        if r.outcome.status ≠ 0 then some (⟨r.outcome.status, .portStatus 0 0⟩, s)
        else some (⟨0, hubPortStatus s r.wIndex (.ofNat 32 r.outcome.param2)⟩, s)
      else none
    | .setPortFeature => hubSetPortFeature r s
    | .clearPortFeature => hubClearPortFeature r s
    | .other _ => none
  handled.getD (⟨- EIO, .none⟩, s)

/-! ## Devices and endpoints -/

/-- Which of its queues a new transfer queue gets. -/
structure TqCreation where
  cq : Bool
  sqIn : Bool
  sqOut : Bool
deriving DecidableEq, Repr

/-- The directions of an endpoint's queues. -/
inductive TqDir where
  | toDevice | fromDevice | bidirectional
deriving DecidableEq, Repr

/-- `bce_vhci_create_transfer_queue` on an entry of the table. -/
def BceVhciTq.create (q : BceVhciTq) (devAddr bEndpointAddress : Nat) (dir : TqDir)
    (c : TqCreation) : BceVhciTq where
  devAddr := devAddr
  endpAddr := bEndpointAddress &&& 0x8F
  cq := c.cq
  sqIn := if dir = .fromDevice ∨ dir = .bidirectional then c.sqIn else q.sqIn
  sqOut := if dir = .toDevice ∨ dir = .bidirectional then c.sqOut else q.sqOut

/-- A transfer queue, by its device and its place there. -/
structure TqRef where
  devid : Nat
  endp : Nat
deriving DecidableEq, Repr

/-- What a call returns, and the entry of `tq` it stores to `hcpriv`, if any. -/
structure EndpointResult where
  status : Int
  hcpriv : Option TqRef
deriving DecidableEq, Repr

/-- The part of `bce_vhci_enable_device` behind the command: a new device with endpoint
zero. -/
def bceVhciInstallDevice (portnum devid ep0Address : Nat) (c : TqCreation) (s : BceVhci) :
    Except VhciTable (EndpointResult × BceVhci) := do
  let vdev := BceVhciDevice.zero
  let portToDevice ← Table.set .portToDevice s.portToDevice portnum devid
  let devices ← Table.set .devices s.devices devid (some vdev)
  let q ← Table.get .tq vdev.tq 0
  let tq ← Table.set .tq vdev.tq 0 (q.create devid ep0Address .bidirectional c)
  let vdev := { tq, tqMask := setBit vdev.tqMask 0 }
  -- the table points to the device, so that it has what is stored there
  let devices ← Table.set .devices devices devid (some vdev)
  return (⟨0, some ⟨devid, 0⟩⟩, { s with portToDevice, devices })

/-- `bce_vhci_enable_device` -/
def bceVhciEnableDevice (portnum ep0Address : Nat) (create : CommandOutcome) (c : TqCreation)
    (s : BceVhci) : Except VhciTable (EndpointResult × BceVhci) := do
  if (← Table.get .portToDevice s.portToDevice portnum) ≠ 0 then return (⟨0, none⟩, s)
  if create.status ≠ 0 then return (⟨- EIO, none⟩, s)
  bceVhciInstallDevice portnum (create.param2 % 256) ep0Address c s

/-- `bce_vhci_endpoint_index` -/
def bceVhciEndpointIndex (addr : Nat) : Nat :=
  if addr &&& 0x80 ≠ 0 then 0x10 + (addr &&& 0xf) else addr &&& 0xf

/-- `bce_vhci_add_endpoint` -/
def bceVhciAddEndpoint (rootHub : Bool) (portnum bEndpointAddress : Nat) (c : TqCreation)
    (s : BceVhci) : Except VhciTable (EndpointResult × BceVhci) := do
  let endp := bceVhciEndpointIndex bEndpointAddress
  let devid ← Table.get .portToDevice s.portToDevice portnum
  let dev ← Table.get .devices s.devices devid
  if rootHub then return (⟨0, none⟩, s)
  match dev with
  | none => return (⟨- ENODEV, none⟩, s)
  | some vdev =>
    if hasBit vdev.tqMask endp then
      return (⟨0, some ⟨devid, endp⟩⟩, s)
    let dir := if bEndpointAddress &&& 0x80 ≠ 0 then TqDir.fromDevice else .toDevice
    let q ← Table.get .tq vdev.tq endp
    let tq ← Table.set .tq vdev.tq endp (q.create devid bEndpointAddress dir c)
    let devices ← Table.set .devices s.devices devid
      (some { tq, tqMask := setBit vdev.tqMask endp })
    return (⟨0, some ⟨devid, endp⟩⟩, { s with devices })

/-! ## Events -/

/-- The transfer queue of the numbers in `param1`, if its device has it. -/
def findTransferQueue (param1 : Nat) (s : BceVhci) : Except VhciTable (Option TqRef) := do
  let devid := param1 % 256
  let endp := bceVhciEndpointIndex (param1 / 256 % 256)
  match ← Table.get .devices s.devices devid with
  | none => return none
  | some dev =>
    if !hasBit dev.tqMask endp then return none
    let _ ← Table.get .tq dev.tq endp
    return some ⟨devid, endp⟩

/-- Where a message goes. -/
inductive VhciDelivery where
  /-- `bce_vhci_command_queue_deliver_completion` -/
  | command
  /-- `bce_vhci_transfer_queue_event` -/
  | transferQueue (q : TqRef)
  | dropped
deriving DecidableEq, Repr

/-- `bce_vhci_handle_usb_event` -/
def bceVhciHandleUsbEvent (msg : BceVhciMessage) (s : BceVhci) : Except VhciTable VhciDelivery := do
  if msg.cmd &&& 0x8000 ≠ 0 then return .command
  if msg.cmd = BCE_VHCI_CMD_TRANSFER_REQUEST ∨ msg.cmd = BCE_VHCI_CMD_CONTROL_TRANSFER_STATUS then
    match ← findTransferQueue msg.param1 s with
    | none => return .dropped
    | some q => return .transferQueue q
  else return .dropped

/-- What `bce_vhci_handle_firmware_event` does to a transfer queue. -/
inductive FirmwareAction where
  | resume (q : TqRef)
  | pause (q : TqRef)
  | stall (q : TqRef)
  | badArgument
deriving DecidableEq, Repr

/-- `bce_vhci_handle_firmware_event`, as far as it finds what to do. -/
def bceVhciHandleFirmwareEvent (msg : BceVhciMessage) (s : BceVhci) :
    Except VhciTable FirmwareAction := do
  if msg.cmd = BCE_VHCI_CMD_ENDPOINT_REQUEST_STATE ∨ msg.cmd = BCE_VHCI_CMD_ENDPOINT_SET_STATE then
    match ← findTransferQueue msg.param1 s with
    | none => return .badArgument
    | some q =>
      if msg.cmd = BCE_VHCI_CMD_ENDPOINT_REQUEST_STATE then
        if msg.param2 = BCE_VHCI_ENDPOINT_ACTIVE then return .resume q
        else if msg.param2 = BCE_VHCI_ENDPOINT_PAUSED then return .pause q
        else return .badArgument
      else if msg.param2 = BCE_VHCI_ENDPOINT_STALLED then return .stall q
      else return .badArgument
  else return .badArgument

end BceDriver
