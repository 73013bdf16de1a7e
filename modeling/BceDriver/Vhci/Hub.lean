import BceDriver.Vhci.Controller
import Mathlib.Data.List.Induction

/-!
# The ports of the hub

- `portCountOf_le_iff`: the number of ports is the position of the highest bit of the
  mask, and the ports are numbered from 1.
- `HubOk`: the masks are right about every port that has a bit in them; every request
  keeps it.
- `hub_ports_iff`: the result. Port 16 has neither a bit nor an entry in a table.
-/

namespace BceDriver

/-! ## Bits -/

section Bits

variable {w n p : Nat} (mask : BitVec w)

theorem getLsbD_BIT (hn : n < 64) : (BIT n).getLsbD p = decide (n = p) := by
  have htwo : BIT n = BitVec.twoPow 64 n := rfl
  rw [htwo, BitVec.getLsbD_twoPow]
  simp [hn]

theorem hasBit_eq (hn : n < 64) : hasBit mask n = mask.getLsbD n := by
  have htwo : BIT n = BitVec.twoPow 64 n := rfl
  have hne : BIT n ≠ 0#64 := by
    intro h
    have hbit := getLsbD_BIT (p := n) hn
    rw [h] at hbit
    simp at hbit
  unfold hasBit
  rw [htwo, BitVec.and_twoPow, ← htwo, BitVec.getLsbD_setWidth]
  cases mask.getLsbD n with
  | true => simp [hn, hne]
  | false => simp

theorem getLsbD_setBit (hn : n < 64) (hp : p < w) (hw : w ≤ 64) :
    (setBit mask n).getLsbD p = (decide (n = p) || mask.getLsbD p) := by
  have hlt : p < 64 := by omega
  rw [setBit, BitVec.getLsbD_setWidth, BitVec.getLsbD_or, BitVec.getLsbD_setWidth, getLsbD_BIT hn]
  simp [hp, hlt, Bool.or_comm]

theorem getLsbD_clearBit (hn : n < 64) (hp : p < w) (hw : w ≤ 64) :
    (clearBit mask n).getLsbD p = (!decide (n = p) && mask.getLsbD p) := by
  have hlt : p < 64 := by omega
  rw [clearBit, BitVec.getLsbD_setWidth, BitVec.getLsbD_and, BitVec.getLsbD_setWidth,
    BitVec.getLsbD_not, getLsbD_BIT hn]
  simp [hp, hlt, Bool.and_comm]

end Bits

/-! ## The number of ports -/

/-- The loop counts the bits up to the highest one. -/
theorem portCountOf_le_iff (mask : BitVec 16) (n : Nat) :
    portCountOf mask ≤ n ↔ mask.toNat < 2 ^ n := by
  fun_induction portCountOf mask generalizing n with
  | case1 => exact iff_of_true (Nat.zero_le n) (Nat.two_pow_pos n)
  | case2 mask hne ih =>
    have hpos : mask.toNat ≠ 0 := fun h0 => hne (BitVec.eq_of_toNat_eq (by simpa using h0))
    cases n with
    | zero =>
      rw [Nat.pow_zero]
      omega
    | succ n =>
      rw [Nat.add_le_add_iff_right, ih, BitVec.toNat_ushiftRight, Nat.shiftRight_one, Nat.pow_succ]
      omega

/-- The hub once it is started with a mask of ports. -/
def startedHub (mask : BitVec 16) : BceVhci :=
  (bceVhciStart ⟨0, mask.toNat⟩ ⟨0, 0⟩ .zero).2

theorem startedHub_portCount (mask : BitVec 16) :
    (startedHub mask).portCount = portCountOf mask := by
  unfold startedHub bceVhciStart
  simp

/-! ## Requests -/

/-- The requests that are for a port. -/
def HubTypeReq.ForPort : HubTypeReq → Prop
  | .getPortStatus | .setPortFeature | .clearPortFeature => True
  | .getHubDescriptor | .getHubStatus | .other _ => False

def hubRun (reqs : List HubRequest) (s : BceVhci) : BceVhci :=
  reqs.foldl (fun s r => (bceVhciHubControl r s).2) s

/-- A power request that succeeds: whether it is a power-on. -/
def HubRequest.power (r : HubRequest) : Option Bool :=
  if r.wValue = USB_PORT_FEAT_POWER ∧ r.outcome.status = 0 then
    match r.typeReq with
    | .setPortFeature => some true
    | .clearPortFeature => some false
    | _ => none
  else none

/-- Whether the last power request on a port that succeeded was a power-on. -/
def lastPower (p : Nat) (reqs : List HubRequest) : Bool :=
  reqs.foldl (fun on r => if r.wIndex = p then r.power.getD on else on) false

def PortCommand.isReset : PortCommand → Bool
  | .reset _ => true
  | _ => false

/-- The resets sent for a port. -/
def BceVhci.resets (s : BceVhci) (p : Nat) : Nat :=
  s.sent.countP fun c => c.1.isReset && c.2 = p

/-- What a request does to the masks, and what it sends. -/
inductive HubEffect (r : HubRequest) (s : BceVhci) : BceVhci → Prop where
  | same : r.power = none → HubEffect r s s
  | sent (c : PortCommand) : r.typeReq.ForPort → r.power = none → c.isReset = false →
      HubEffect r s (s.send c r.wIndex)
  | powered (on : Bool) (c : PortCommand) : r.typeReq.ForPort → r.power = some on →
      c.isReset = false → HubEffect r s { s.send c r.wIndex with
        portPowerMask := if on then setBit s.portPowerMask r.wIndex
          else clearBit s.portPowerMask r.wIndex }
  | reset (timeout : Nat) : r.typeReq.ForPort → r.power = none →
      hasBit s.portResetMask r.wIndex = false → HubEffect r s
        (({ s with portResetMask := setBit s.portResetMask r.wIndex } : BceVhci).send
          (.reset timeout) r.wIndex)

section Requests

variable {r : HubRequest} {s s' : BceVhci} {reqs : List HubRequest} {p : Nat}

theorem HubRequest.power_none_of_value (h : r.wValue ≠ USB_PORT_FEAT_POWER) : r.power = none := by
  unfold HubRequest.power
  rw [if_neg fun hand => h hand.1]

theorem HubRequest.power_none_of_status (h : r.outcome.status ≠ 0) : r.power = none := by
  unfold HubRequest.power
  rw [if_neg fun hand => h hand.2]

theorem HubRequest.power_none_of_type (hset : r.typeReq ≠ .setPortFeature)
    (hclear : r.typeReq ≠ .clearPortFeature) : r.power = none := by
  unfold HubRequest.power
  split
  · split
    · next h => exact absurd h hset
    · next h => exact absurd h hclear
    · rfl
  · rfl

theorem hubSetPortFeature_effect {out : HubReply × BceVhci} (htype : r.typeReq = .setPortFeature)
    (h : hubSetPortFeature r s = some out) : HubEffect r s out.2 := by
  have hport : r.typeReq.ForPort := htype ▸ trivial
  unfold hubSetPortFeature at h
  split at h
  · next hpower =>
    cases h
    by_cases hok : r.outcome.status = 0
    · have hon : r.power = some true := by simp [HubRequest.power, hpower, hok, htype]
      simp only [hok, if_true]
      exact .powered true .powerOn hport hon rfl
    · simp only [hok, if_false]
      exact .sent .powerOn hport (HubRequest.power_none_of_status hok) rfl
  · next hvalue =>
    have hnone := HubRequest.power_none_of_value hvalue
    split at h
    · split at h
      · cases h
        exact .same hnone
      · next hbit =>
        cases h
        exact .reset _ hport hnone (Bool.eq_false_iff.mpr hbit)
    · split at h
      · cases h
        exact .sent .suspend hport hnone rfl
      · cases h

theorem hubClearPortFeature_effect {out : HubReply × BceVhci}
    (htype : r.typeReq = .clearPortFeature) (h : hubClearPortFeature r s = some out) :
    HubEffect r s out.2 := by
  have hport : r.typeReq.ForPort := htype ▸ trivial
  unfold hubClearPortFeature at h
  split at h
  · next hvalue =>
    cases h
    exact .sent .disable hport (HubRequest.power_none_of_value (by rw [hvalue]; decide)) rfl
  · split at h
    · next hpower =>
      cases h
      by_cases hok : r.outcome.status = 0
      · have hoff : r.power = some false := by simp [HubRequest.power, hpower, hok, htype]
        simp only [hok, if_true]
        exact .powered false .powerOff hport hoff rfl
      · simp only [hok, if_false]
        exact .sent .powerOff hport (HubRequest.power_none_of_status hok) rfl
    · next hvalue =>
      have hnone := HubRequest.power_none_of_value hvalue
      split at h
      · cases h
        exact .sent (.status 0x40000) hport hnone rfl
      · split at h
        · cases h
          exact .same hnone
        · split at h
          · cases h
            exact .sent .resume hport hnone rfl
          · cases h

/-- What any request does. -/
theorem hubControl_effect (r : HubRequest) (s : BceVhci) :
    HubEffect r s (bceVhciHubControl r s).2 := by
  have hother : r.typeReq ≠ .setPortFeature → r.typeReq ≠ .clearPortFeature → r.power = none :=
    HubRequest.power_none_of_type
  unfold bceVhciHubControl
  simp only
  split
  · next htype =>
    have hnone := hother (by rw [htype]; nofun) (by rw [htype]; nofun)
    split <;> exact .same hnone
  · next htype =>
    have hnone := hother (by rw [htype]; nofun) (by rw [htype]; nofun)
    split <;> exact .same hnone
  · next htype =>
    have hnone := hother (by rw [htype]; nofun) (by rw [htype]; nofun)
    have hport : r.typeReq.ForPort := htype ▸ trivial
    split
    · split <;> exact .sent (.status 0) hport hnone rfl
    · exact .same hnone
  · next htype =>
    cases h : hubSetPortFeature r s with
    | some out => exact hubSetPortFeature_effect htype h
    | none =>
      refine .same (HubRequest.power_none_of_value fun hvalue => ?_)
      simp [hubSetPortFeature, hvalue] at h
  · next htype =>
    cases h : hubClearPortFeature r s with
    | some out => exact hubClearPortFeature_effect htype h
    | none =>
      refine .same (HubRequest.power_none_of_value fun hvalue => ?_)
      simp [hubClearPortFeature, hvalue, USB_PORT_FEAT_POWER, USB_PORT_FEAT_ENABLE] at h
  · next htype => exact .same (hother (by rw [htype]; nofun) (by rw [htype]; nofun))

/-! ## The masks -/

/-- After these requests, the masks are right about the ports they have a bit for. -/
structure HubOk (reqs : List HubRequest) (s : BceVhci) : Prop where
  power : ∀ p < 16, s.portPowerMask.getLsbD p = lastPower p reqs
  resets : ∀ p < 16, s.resets p = if s.portResetMask.getLsbD p then 1 else 0

theorem lastPower_append (p : Nat) (reqs : List HubRequest) (r : HubRequest) :
    lastPower p (reqs ++ [r]) =
      if r.wIndex = p then r.power.getD (lastPower p reqs) else lastPower p reqs := by
  simp [lastPower]

theorem resets_send (c : PortCommand) (hindex : r.wIndex < 64) :
    (s.send c r.wIndex).resets p = s.resets p + if c.isReset ∧ r.wIndex = p then 1 else 0 := by
  have hmod : r.wIndex % 256 = r.wIndex := by omega
  unfold BceVhci.resets BceVhci.send
  rw [List.countP_append, hmod]
  by_cases hc : c.isReset <;> by_cases hp : r.wIndex = p <;> simp [hc, hp]

theorem resets_send_other {c : PortCommand} (hc : c.isReset = false) (hindex : r.wIndex < 64) :
    (s.send c r.wIndex).resets p = s.resets p := by
  rw [resets_send c hindex, hc]
  simp

/-- **A request keeps the masks right.** -/
theorem HubOk.step (h : HubOk reqs s) (hindex : r.typeReq.ForPort → r.wIndex < 64)
    (heff : HubEffect r s s') : HubOk (reqs ++ [r]) s' := by
  have hkept : r.power = none → ∀ p, lastPower p (reqs ++ [r]) = lastPower p reqs := by
    intro hnone p
    rw [lastPower_append, hnone]
    simp
  cases heff with
  | same hnone => exact ⟨fun p hp => (h.power p hp).trans (hkept hnone p).symm, h.resets⟩
  | sent c hport hnone hc =>
    exact ⟨fun p hp => (h.power p hp).trans (hkept hnone p).symm,
      fun p hp => (resets_send_other hc (hindex hport)).trans (h.resets p hp)⟩
  | powered on c hport hon hc =>
    constructor
    · intro p hp
      rw [lastPower_append, hon, ← h.power p hp]
      cases on with
      | true =>
        show (setBit s.portPowerMask r.wIndex).getLsbD p = _
        rw [getLsbD_setBit _ (hindex hport) hp (by decide)]
        by_cases heq : r.wIndex = p <;> simp [heq]
      | false =>
        show (clearBit s.portPowerMask r.wIndex).getLsbD p = _
        rw [getLsbD_clearBit _ (hindex hport) hp (by decide)]
        by_cases heq : r.wIndex = p <;> simp [heq]
    · exact fun p hp => (resets_send_other hc (hindex hport)).trans (h.resets p hp)
  | reset timeout hport hnone hbit =>
    refine ⟨fun p hp => (h.power p hp).trans (hkept hnone p).symm, fun p hp => ?_⟩
    rw [hasBit_eq _ (hindex hport)] at hbit
    have hset := getLsbD_setBit s.portResetMask (hindex hport) hp (by decide)
    have hold : ({ s with portResetMask := setBit s.portResetMask r.wIndex } : BceVhci).resets p =
        s.resets p := rfl
    show BceVhci.resets (BceVhci.send _ _ _) p =
      if (setBit s.portResetMask r.wIndex).getLsbD p = true then 1 else 0
    rw [resets_send _ (hindex hport), hold, h.resets p hp, hset]
    -- the bit was clear, so that this is the first reset of the port
    by_cases heq : r.wIndex = p
    · subst heq
      simp [hbit, PortCommand.isReset]
    · simp [heq, PortCommand.isReset]

end Requests

/-- **The masks over any run of requests.** -/
theorem hubOk_run (mask : BitVec 16) (reqs : List HubRequest)
    (hindex : ∀ r ∈ reqs, r.typeReq.ForPort → r.wIndex < 64) :
    HubOk reqs (hubRun reqs (startedHub mask)) := by
  induction reqs using List.reverseRecOn with
  | nil => exact ⟨fun p hp => by simp [hubRun, startedHub, bceVhciStart, lastPower],
      fun p hp => by simp [hubRun, startedHub, bceVhciStart, BceVhci.resets, BceVhci.zero]⟩
  | append_singleton reqs r ih =>
    have hlast := hindex r (List.mem_append_right _ (List.mem_singleton_self r))
    have hrun : hubRun (reqs ++ [r]) (startedHub mask) =
        (bceVhciHubControl r (hubRun reqs (startedHub mask))).2 := by
      simp [hubRun]
    rw [hrun]
    exact (ih fun r hr => hindex r (List.mem_append_left _ hr)).step hlast (hubControl_effect _ _)

/-! ## The result -/

/-- Every status of a port that is reported says whether the last successful power
request on the port was a power-on. -/
def PowerReported (s : BceVhci) (reqs : List HubRequest) : Prop :=
  ∀ before r after, reqs = before ++ r :: after → r.typeReq = .getPortStatus →
    (bceVhciHubControl r (hubRun before s)).1.status = 0 →
    ∃ wPortStatus wPortChange,
      (bceVhciHubControl r (hubRun before s)).1.data = .portStatus wPortStatus wPortChange ∧
      (wPortStatus &&& USB_PORT_STAT_POWER ≠ 0 ↔ lastPower r.wIndex before = true)

/-- At most one reset is sent for a port. -/
def ResetOnce (s : BceVhci) (reqs : List HubRequest) : Prop :=
  ∀ p, 1 ≤ p → p ≤ s.portCount → (hubRun reqs s).resets p ≤ 1

/-- Every port has an entry in the table of devices. -/
def PortsIndexed (s : BceVhci) : Prop :=
  ∀ p, 1 ≤ p → p ≤ s.portCount → p < s.portToDevice.size

/-- The reported status has the bit of the power mask. -/
theorem hubPortStatus_power (s : BceVhci) (i : Nat) (portStatus : BitVec 32) :
    ∃ wPortStatus wPortChange,
      hubPortStatus s i portStatus = .portStatus wPortStatus wPortChange ∧
      (wPortStatus &&& USB_PORT_STAT_POWER ≠ 0 ↔ hasBit s.portPowerMask i = true) := by
  refine ⟨_, _, rfl, ?_⟩
  have hother : ∀ (c : Prop) [Decidable c] (stat : BitVec 16), stat &&& USB_PORT_STAT_POWER = 0 →
      (if c then stat else 0) &&& USB_PORT_STAT_POWER = 0 := by
    intro c _ stat hstat
    split
    · exact hstat
    · decide
  simp only [BitVec.and_or_distrib_right]
  rw [hother _ (USB_PORT_STAT_ENABLE ||| USB_PORT_STAT_HIGH_SPEED) (by decide),
    hother _ USB_PORT_STAT_CONNECTION (by decide), hother _ USB_PORT_STAT_OVERCURRENT (by decide),
    hother _ USB_PORT_STAT_RESET (by decide), hother _ USB_PORT_STAT_SUSPEND (by decide)]
  cases hasBit s.portPowerMask i <;> decide

theorem powerReported_of_run {mask : BitVec 16} {reqs : List HubRequest}
    (hports : ∀ r ∈ reqs, r.typeReq.ForPort → r.wIndex < 16) :
    PowerReported (startedHub mask) reqs := by
  rintro before r after rfl htype hok
  have hbefore : HubOk before (hubRun before (startedHub mask)) :=
    hubOk_run mask before fun r' hr' hport =>
      (hports r' (List.mem_append_left _ hr') hport).trans (by decide)
  have hindex : r.wIndex < 16 := hports r (by simp) (htype ▸ trivial)
  unfold bceVhciHubControl at hok ⊢
  simp only [htype] at hok ⊢
  split at hok
  · next hlen =>
    split at hok
    · next hstatus => exact absurd hok hstatus
    · next hstatus =>
      obtain ⟨st, ch, hdata, hpower⟩ := hubPortStatus_power
        ((hubRun before (startedHub mask)).send (.status 0) r.wIndex) r.wIndex
        (.ofNat 32 r.outcome.param2)
      refine ⟨st, ch, ?_, ?_⟩
      · rw [if_pos hlen, if_neg hstatus]
        exact hdata
      · rw [hpower, hasBit_eq _ (hindex.trans (by decide)), ← hbefore.power r.wIndex hindex]
        rfl
  · have hio : - EIO = 0 := hok
    exact absurd hio (by decide)

/-- **The ports of the hub.** For every mask of ports the controller reports and every
sequence of requests on the ports there are, with whatever comes of the commands: the
power that is reported is that of the last successful request, a port is reset at most
once and every port has an entry in the table, exactly if the highest bit of the mask
is clear. -/
theorem hub_ports_iff (mask : BitVec 16) (reqs : List HubRequest)
    (hports : ∀ r ∈ reqs, r.typeReq.ForPort →
      1 ≤ r.wIndex ∧ r.wIndex ≤ (startedHub mask).portCount) :
    PowerReported (startedHub mask) reqs ∧ ResetOnce (startedHub mask) reqs ∧
      PortsIndexed (startedHub mask) ↔ mask.toNat < 2 ^ 15 := by
  have hcount : ∀ n, (startedHub mask).portCount ≤ n ↔ mask.toNat < 2 ^ n := fun n => by
    rw [startedHub_portCount, portCountOf_le_iff]
  constructor
  · rintro ⟨-, -, hindexed⟩
    by_contra hbit
    have hmore : ¬(startedHub mask).portCount ≤ 15 := fun h => hbit ((hcount 15).mp h)
    have hlt : 16 < 16 := hindexed 16 (by decide) (by omega)
    omega
  · intro hbit
    have hmax : (startedHub mask).portCount ≤ 15 := (hcount 15).mpr hbit
    have hsmall : ∀ r ∈ reqs, r.typeReq.ForPort → r.wIndex < 16 := by
      intro r hr hport
      have hle := (hports r hr hport).2
      omega
    have hok := hubOk_run mask reqs fun r hr hport => (hsmall r hr hport).trans (by decide)
    refine ⟨powerReported_of_run hsmall, fun p _ hp => ?_, fun p _ hp => ?_⟩
    · rw [hok.resets p (by omega)]
      split <;> decide
    · have hlt : p < 16 := by omega
      exact hlt

/-! ## Port 16 -/

def topMask : BitVec 16 := 0x8000

/-- Port 16 is powered, asked for its status, and reset twice. -/
def topRequests : List HubRequest :=
  [⟨.setPortFeature, USB_PORT_FEAT_POWER, 16, 0, ⟨0, 0⟩⟩, ⟨.getPortStatus, 0, 16, 4, ⟨0, 0⟩⟩,
    ⟨.setPortFeature, USB_PORT_FEAT_RESET, 16, 0, ⟨0, 0⟩⟩,
    ⟨.setPortFeature, USB_PORT_FEAT_RESET, 16, 0, ⟨0, 0⟩⟩]

/-- There are 16 ports, and the last is neither powered nor reset once nor in the table. -/
theorem hub_port_16 :
    (startedHub topMask).portCount = 16 ∧ ¬PowerReported (startedHub topMask) topRequests ∧
      ¬ResetOnce (startedHub topMask) topRequests ∧ ¬PortsIndexed (startedHub topMask) := by
  have hcount : (startedHub topMask).portCount = 16 := by
    have hle : (startedHub topMask).portCount ≤ 16 := by
      rw [startedHub_portCount, portCountOf_le_iff]
      decide
    have hlt : ¬(startedHub topMask).portCount ≤ 15 := by
      rw [startedHub_portCount, portCountOf_le_iff]
      decide
    omega
  refine ⟨hcount, fun hpower => ?_, fun honce => ?_, fun hindexed => ?_⟩
  · obtain ⟨st, ch, hdata, hiff⟩ := hpower [⟨.setPortFeature, USB_PORT_FEAT_POWER, 16, 0, ⟨0, 0⟩⟩]
      ⟨.getPortStatus, 0, 16, 4, ⟨0, 0⟩⟩ _ rfl rfl rfl
    have hzero : HubData.portStatus 0 0 = .portStatus st ch := hdata
    cases hzero
    exact absurd (hiff.mpr rfl) (by decide)
  · have htwo : (hubRun topRequests (startedHub topMask)).resets 16 = 2 := by decide +kernel
    have hle := honce 16 (by decide) (by omega)
    omega
  · have hlt : 16 < 16 := hindexed 16 (by decide) (by omega)
    omega

/-- Power is set, and after a reset that fails and one that does not it is cleared again. -/
def oneRequests : List HubRequest :=
  [⟨.setPortFeature, USB_PORT_FEAT_POWER, 1, 0, ⟨0, 0⟩⟩, ⟨.getPortStatus, 0, 1, 4, ⟨0, 0⟩⟩,
    ⟨.setPortFeature, USB_PORT_FEAT_RESET, 1, 0, ⟨-ETIMEDOUT, 0⟩⟩,
    ⟨.setPortFeature, USB_PORT_FEAT_RESET, 1, 0, ⟨0, 0⟩⟩,
    ⟨.clearPortFeature, USB_PORT_FEAT_POWER, 1, 0, ⟨0, 0⟩⟩, ⟨.getPortStatus, 0, 1, 4, ⟨0, 0⟩⟩]

/-- With one port, nothing goes wrong: the status tells that the power is on, and then that it is
off, and of two reset requests one is sent. -/
theorem hub_ports_of_one :
    (PowerReported (startedHub 1) oneRequests ∧ ResetOnce (startedHub 1) oneRequests ∧
      PortsIndexed (startedHub 1)) ∧
    (hubRun oneRequests (startedHub 1)).resets 1 = 1 ∧
    (∃ st ch, (bceVhciHubControl ⟨.getPortStatus, 0, 1, 4, ⟨0, 0⟩⟩
        (hubRun (oneRequests.take 1) (startedHub 1))).1.data = .portStatus st ch ∧
      st &&& USB_PORT_STAT_POWER ≠ 0) ∧
    ∃ st ch, (bceVhciHubControl ⟨.getPortStatus, 0, 1, 4, ⟨0, 0⟩⟩
        (hubRun (oneRequests.take 5) (startedHub 1))).1.data = .portStatus st ch ∧
      ¬st &&& USB_PORT_STAT_POWER ≠ 0 := by
  have hports : ∀ r ∈ oneRequests,
      r.typeReq.ForPort → 1 ≤ r.wIndex ∧ r.wIndex ≤ (startedHub 1).portCount := by
    intro r hr _
    have hone : ∀ r ∈ oneRequests, r.wIndex = 1 := by decide
    have hmore : ¬(startedHub 1).portCount ≤ 0 := by
      rw [startedHub_portCount, portCountOf_le_iff]
      decide
    rw [hone r hr]
    exact ⟨Nat.le_refl 1, Nat.pos_of_ne_zero fun h => hmore (Nat.le_of_eq h)⟩
  have hok := (hub_ports_iff 1 oneRequests hports).mpr (by decide)
  refine ⟨hok, by decide +kernel, ?_, ?_⟩
  · obtain ⟨st, ch, hdata, hiff⟩ := hok.1 (oneRequests.take 1) _ (oneRequests.drop 2) rfl rfl rfl
    exact ⟨st, ch, hdata, hiff.mpr (by decide)⟩
  · obtain ⟨st, ch, hdata, hiff⟩ := hok.1 (oneRequests.take 5) _ [] rfl rfl rfl
    exact ⟨st, ch, hdata, mt hiff.mp (by decide)⟩

end BceDriver
