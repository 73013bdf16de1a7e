import BceDriver.Lib.Table
import BceDriver.Mailbox.Basic
import BceDriver.Vhci.CreateDestroy

/-!
# Probing and removing the device (`apple_bce.c`)

`apple_bce_probe` acquires what the device needs one after the other, `apple_bce_remove`
releases it, and the module exits over both. What the kernel, the mailbox and the device
answer is an outcome of the call.

- The label `fail` of `apple_bce_probe` reads `bce->reg_mem_mb` after `kfree(bce)`, or
  with `bce` null: every failure past `pci_enable_device` ends in a fault.
- The status of `bce_vhci_create` is ignored.
-/

namespace BceDriver

/-! ## Messages of the mailbox -/

def BCE_MB_REGISTER_COMMAND_QUEUE_REPLY : Nat := 0xB
def BCE_MB_SET_FW_PROTOCOL_VERSION : Nat := 0xC
def BC_PROTOCOL_VERSION : BitVec 64 := 0x20001

/-- `BCE_MB_MSG` -/
def bceMbMsg (type : Nat) (value : BitVec 64) : BitVec 64 :=
  BitVec.ofNat 64 type <<< 58 ||| value &&& 0x3FFFFFFFFFFFFFF

/-- `BCE_MB_TYPE` -/
def bceMbType (v : BitVec 64) : Nat := (v >>> 58).toNat

/-- `BCE_MB_VALUE` -/
def bceMbValue (v : BitVec 64) : BitVec 64 := v &&& 0x3FFFFFFFFFFFFFF

/-- What `bce_mailbox_send` returns, and the result it stores. -/
structure MailboxReply where
  status : Int
  result : BitVec 64
deriving DecidableEq, Repr

/-- `bce_fw_version_handshake`, with the reply to
`BCE_MB_MSG(BCE_MB_SET_FW_PROTOCOL_VERSION, BC_PROTOCOL_VERSION)` -/
def bceFwVersionHandshake (reply : MailboxReply) : Int :=
  if reply.status ≠ 0 then reply.status
  else if bceMbType reply.result ≠ BCE_MB_SET_FW_PROTOCOL_VERSION ∨
      bceMbValue reply.result ≠ BC_PROTOCOL_VERSION then -EINVAL
  else 0

/-- `bce_register_command_queue`, with the address the configuration is mapped to and the
reply to its message. -/
def bceRegisterCommandQueue (mapped : Bool) (reply : MailboxReply) : Int :=
  if mapped = false then -ENOMEM
  else if reply.status ≠ 0 then reply.status
  else if bceMbType reply.result ≠ BCE_MB_REGISTER_COMMAND_QUEUE_REPLY then -EINVAL
  else 0

/-- The bits of a message: six for the type, the rest for the value. -/
theorem bceMbType_msg {type : Nat} (h : type < 64) (value : BitVec 64) :
    bceMbType (bceMbMsg type value) = type := by
  unfold bceMbType bceMbMsg
  have hvalue : (value &&& 0x3FFFFFFFFFFFFFF).toNat < 2 ^ 58 := by
    rw [BitVec.toNat_and]
    exact lt_of_le_of_lt Nat.and_le_right (by decide)
  have htype : (BitVec.ofNat 64 type <<< 58).toNat = type * 2 ^ 58 := by
    rw [BitVec.toNat_shiftLeft, BitVec.toNat_ofNat, Nat.shiftLeft_eq]
    omega
  rw [BitVec.toNat_ushiftRight, BitVec.toNat_or, htype, Nat.shiftRight_or_distrib,
    Nat.shiftRight_eq_div_pow, Nat.shiftRight_eq_div_pow, Nat.div_eq_of_lt hvalue,
    Nat.mul_div_cancel _ (by decide), Nat.or_zero]

theorem bceMbValue_msg (type : Nat) {value : BitVec 64} (h : value.toNat < 2 ^ 58) :
    bceMbValue (bceMbMsg type value) = value := by
  have hmask : value &&& 0x3FFFFFFFFFFFFFF = value := by
    apply BitVec.eq_of_toNat_eq
    rw [BitVec.toNat_and]
    exact (Nat.and_two_pow_sub_one_eq_mod value.toNat 58).trans (Nat.mod_eq_of_lt h)
  have htype : BitVec.ofNat 64 type <<< 58 &&& 0x3FFFFFFFFFFFFFF = 0 := by
    apply BitVec.eq_of_toNat_eq
    rw [BitVec.toNat_and, BitVec.toNat_shiftLeft, BitVec.toNat_ofNat, Nat.shiftLeft_eq]
    refine (Nat.and_two_pow_sub_one_eq_mod _ 58).trans ?_
    rw [Nat.mod_mod_of_dvd _ (by decide : 2 ^ 58 ∣ 2 ^ 64)]
    exact Nat.mul_mod_left ..
  unfold bceMbValue bceMbMsg
  rw [hmask, BitVec.and_or_distrib_right, htype, hmask]
  exact BitVec.zero_or

/-- A message is its type and its value. -/
theorem bceMbMsg_type_value (v : BitVec 64) : bceMbMsg (bceMbType v) (bceMbValue v) = v := by
  have hvalue : bceMbValue v &&& 0x3FFFFFFFFFFFFFF = bceMbValue v := by
    unfold bceMbValue
    rw [BitVec.and_assoc, BitVec.and_self]
  unfold bceMbMsg
  rw [hvalue]
  apply BitVec.eq_of_toNat_eq
  have hdiv : v.toNat / 2 ^ 58 * 2 ^ 58 + v.toNat % 2 ^ 58 = v.toNat := Nat.div_add_mod' ..
  have hlow : (bceMbValue v).toNat = v.toNat % 2 ^ 58 := by
    unfold bceMbValue
    rw [BitVec.toNat_and]
    exact Nat.and_two_pow_sub_one_eq_mod v.toNat 58
  have hhigh : (BitVec.ofNat 64 (bceMbType v) <<< 58).toNat = v.toNat / 2 ^ 58 * 2 ^ 58 := by
    unfold bceMbType
    rw [BitVec.toNat_shiftLeft, BitVec.toNat_ofNat, BitVec.toNat_ushiftRight, Nat.shiftLeft_eq,
      Nat.shiftRight_eq_div_pow]
    have := v.isLt
    omega
  rw [BitVec.toNat_or, hlow, hhigh, ← Nat.shiftLeft_eq,
    ← Nat.shiftLeft_add_eq_or_of_lt (Nat.mod_lt _ (by decide)), Nat.shiftLeft_eq, hdiv]

/-- The handshake succeeds exactly if the firmware answers with the message it was sent. -/
theorem bceFwVersionHandshake_eq_zero (reply : MailboxReply) : bceFwVersionHandshake reply = 0 ↔
    reply.status = 0 ∧
      reply.result = bceMbMsg BCE_MB_SET_FW_PROTOCOL_VERSION BC_PROTOCOL_VERSION := by
  unfold bceFwVersionHandshake
  split
  · next hstatus => simp [hstatus]
  · next hstatus =>
    split
    · next hne =>
      refine ⟨nofun, fun ⟨_, hresult⟩ => ?_⟩
      rw [hresult, bceMbType_msg (by decide), bceMbValue_msg _ (by decide)] at hne
      exact hne.elim (absurd rfl) (absurd rfl)
    · next heq =>
      rw [not_or, not_not, not_not] at heq
      refine ⟨fun _ => ⟨not_not.mp hstatus, ?_⟩, fun _ => rfl⟩
      rw [← heq.1, ← heq.2, bceMbMsg_type_value]

/-! ## Probing -/

/-- Why a call of the driver does not return. -/
inductive BceFault where
  /-- `bce` is read and null -/
  | nullBce
  /-- `bce` is read after it was freed -/
  | freedBce
  /-- something else is used that is not there -/
  | notLive
deriving DecidableEq, Repr

/-- What the allocator and the mailbox answer `bce_create_command_queues`. -/
structure CommandQueueReplies where
  cq : Option Nat
  sq : Option Nat
  tres : Bool
  cfg : Bool
  mappedCq : Bool
  registerCq : MailboxReply
  mappedSq : Bool
  registerSq : MailboxReply

def CommandQueueReplies.outcome (r : CommandQueueReplies) : CommandQueuesOutcome where
  cq := r.cq
  sq := r.sq
  tres := r.tres
  cfg := r.cfg
  registerCq := bceRegisterCommandQueue r.mappedCq r.registerCq
  registerSq := bceRegisterCommandQueue r.mappedSq r.registerSq

/-- What the kernel and the device answer `apple_bce_probe`. -/
structure ProbeOutcome where
  pciEnable : Bool
  pciRegions : Bool
  nvec : Int
  kzalloc : Bool
  node : Bool
  regMemMb : Bool
  regMemDma : Bool
  irq0 : Int
  irq4 : Int
  dmaMask : Int
  handshake : MailboxReply
  commandQueues : CommandQueueReplies
  vhci : BceVhciOutcome

/-- The results of the calls of `apple_bce_module_init` -/
structure ModuleOutcome where
  chrdev : Int
  devClass : Int
  vhciChrdev : Int
  vhciClass : Int
  pciRegister : Int

namespace BceVhciLife

variable (v : BceVhciLife)

def orFault {α : Type} : Option α → Except BceFault α
  | none => .error .notLive
  | some a => .ok a

def take (k : KernelObject) : Except BceFault BceVhciLife :=
  orFault ((v.acquire k).map v.withDriver)

def give (k : KernelObject) : Except BceFault BceVhciLife :=
  orFault ((v.release k).map v.withDriver)

/-- `bce` with nothing in it, as `kzalloc` returns it, and as good as `kfree` leaves it.
The memory of queues is not part of it. -/
def clearBce : BceVhciLife where
  queues := fun _ => none
  mem := v.mem
  queueIda := fun _ => false
  cmdCq := none
  cmdCmdq := none
  isBeingRemoved := false
  kernel := v.kernel
  msg := fun _ => ⟨none, none, none⟩
  evCq := none
  ev := fun _ => ⟨none, none⟩
  tqStateWq := none
  hcd := none

/-- `bce_create_command_queues`; once it fails, so does the probe. -/
def createCommandQueues (o : CommandQueueReplies) : Except BceFault (Int × BceVhciLife) :=
  orFault ((v.toQueueDevice.bceCreateCommandQueues o.outcome).map fun (status, dev) =>
    (status, v.withDriver (v.withQueues dev)))

/-- `goto fail`, or a label above it, unless the call succeeded. -/
def require (succeeded : Prop) [Decidable succeeded] (fault : BceFault) : Except BceFault Unit :=
  if succeeded then .ok () else .error fault

/-- `apple_bce_probe`. The label `fail` reads `bce` whatever it is, after the labels above
it released what they are for. -/
def appleBceProbe (o : ProbeOutcome) : Except BceFault (Int × BceVhciLife) :=
  if o.pciEnable = false then .ok (-ENODEV, v) else do
    let v ← v.take (.pciDevice .appleBce)
    require (o.pciRegions = true) .nullBce
    let v ← v.take (.pciRegions .appleBce)
    require (5 ≤ o.nvec) .nullBce
    let v ← v.take (.irqVectors .appleBce)
    require (o.kzalloc = true) .nullBce
    let v ← v.clearBce.take (.device .appleBce)
    require (o.node = true) .freedBce
    let v ← v.take (.node .appleBce)
    require (o.regMemMb = true ∧ o.regMemDma = true) .freedBce
    let v ← v.take (.mapping .appleBce 4)
    let v ← v.take (.mapping .appleBce 2)
    require (o.irq0 = 0) .freedBce
    let v ← v.take (.irq 0)
    require (o.irq4 = 0) .freedBce
    let v ← v.take (.irq 4)
    require (o.dmaMask = 0) .freedBce
    let v ← v.take .timer
    require (bceFwVersionHandshake o.handshake = 0) .freedBce
    let (status, v) ← v.createCommandQueues o.commandQueues
    require (status = 0) .freedBce
    let (_, v) ← orFault (v.bceVhciCreate o.vhci)
    .ok (0, v)

/-- `bce_free_command_queues` -/
def freeCommandQueues : Except BceFault BceVhciLife :=
  orFault (v.toQueueDevice.bceFreeCommandQueues.map fun dev => v.withDriver (v.withQueues dev))

def appleBceRemove (acceptsNull : Bool) : Except BceFault BceVhciLife := do
  let v ← orFault (({ v with isBeingRemoved := true } : BceVhciLife).bceVhciDestroy acceptsNull)
  let v ← v.give .timer
  let v ← v.give (.irq 0)
  let v ← v.give (.irq 4)
  let v ← v.freeCommandQueues
  let v ← v.give (.mapping .appleBce 4)
  let v ← v.give (.mapping .appleBce 2)
  let v ← orFault ((v.deviceDestroy .appleBce).map v.withDriver)
  let v ← v.give (.irqVectors .appleBce)
  let v ← v.give (.pciRegions .appleBce)
  let v ← v.give (.pciDevice .appleBce)
  v.clearBce.give (.device .appleBce)

/-! ## The module -/

/-- `bce_vhci_module_init`; what could not be created is not destroyed. -/
def bceVhciModuleInit (chrdev devClass : Int) : Except BceFault (Int × BceVhciLife) :=
  if chrdev ≠ 0 then .ok (chrdev, v) else do
    let v ← v.take (.chrdev .bceVhci)
    if devClass ≠ 0 then do
      let v ← v.give (.chrdev .bceVhci)
      .ok (devClass, v)
    else do
      let v ← v.take (.devClass .bceVhci)
      .ok (0, v)

/-- The label `fail_class` of `apple_bce_module_init`, if the class is there, and
`fail_drv`, as `pci_unregister_driver` does nothing for a driver that is not registered. -/
def moduleInitFailClass (result : Int) : Except BceFault (Int × BceVhciLife) := do
  let v ← v.give (.devClass .appleBce)
  let v ← v.give (.chrdev .appleBce)
  .ok (result, v)

/-- `apple_bce_module_init`, less the audio driver -/
def appleBceModuleInit (o : ModuleOutcome) : Except BceFault (Int × BceVhciLife) :=
  if o.chrdev ≠ 0 then .ok (o.chrdev, v) else do
    let v ← v.take (.chrdev .appleBce)
    if o.devClass ≠ 0 then do
      let v ← v.give (.chrdev .appleBce)
      .ok (o.devClass, v)
    else do
      let v ← v.take (.devClass .appleBce)
      let (result, v) ← v.bceVhciModuleInit o.vhciChrdev o.vhciClass
      if result ≠ 0 then v.moduleInitFailClass result
      else if o.pciRegister ≠ 0 then v.moduleInitFailClass o.pciRegister
      else do
        let v ← v.take (.pciDriver .appleBce)
        .ok (0, v)

/-- `apple_bce_module_exit`, less the audio driver; `pci_unregister_driver` removes the
device that is bound. -/
def appleBceModuleExit (bound acceptsNull : Bool) : Except BceFault BceVhciLife := do
  let v ← v.give (.devClass .bceVhci)
  let v ← v.give (.chrdev .bceVhci)
  let v ← if bound then v.appleBceRemove acceptsNull else .ok v
  let v ← v.give (.pciDriver .appleBce)
  let v ← v.give (.devClass .appleBce)
  v.give (.chrdev .appleBce)

end BceVhciLife

end BceDriver
