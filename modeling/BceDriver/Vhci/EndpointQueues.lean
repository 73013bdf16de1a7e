import BceDriver.Lib.StepSystem
import BceDriver.Vhci.Tables

/-!
# The queues behind the endpoints (`vhci/vhci.c`, `vhci/transfer.c`)

`bce_vhci_create_transfer_queue` has no result, and its callers put the endpoint into
`tq_mask` and `hcpriv` whatever became of the queues.

- `BceVhci.Complete`: a bit of a `tq_mask` stands for a transfer queue with all the
  queues of its directions.
- `Created`: the call creates no transfer queue, or all the queues of one.
- `endpointQueues_iff`: over the runs of the two functions, the result.
-/

namespace BceDriver

/-! ## What a transfer queue needs -/

/-- The directions of the endpoint with this index: both for the control endpoint. -/
def tqDirOf (e : Nat) : TqDir :=
  if e = 0 then .bidirectional else if e < 0x10 then .toDevice else .fromDevice

/-- All the queues of these directions. -/
def TqCreation.Complete (c : TqCreation) (dir : TqDir) : Prop :=
  c.cq = true ∧ (dir ≠ .toDevice → c.sqIn = true) ∧ (dir ≠ .fromDevice → c.sqOut = true)

instance (c : TqCreation) (dir : TqDir) : Decidable (c.Complete dir) :=
  inferInstanceAs (Decidable (_ ∧ _ ∧ _))

/-- The queues a transfer queue has. -/
def BceVhciTq.queues (q : BceVhciTq) : TqCreation := ⟨q.cq, q.sqIn, q.sqOut⟩

theorem queues_create_complete_iff {q : BceVhciTq} {devid addr : Nat} {dir : TqDir}
    {c : TqCreation} : (q.create devid addr dir c).queues.Complete dir ↔ c.Complete dir := by
  cases dir <;> simp [BceVhciTq.create, BceVhciTq.queues, TqCreation.Complete]

/-- Each bit of the mask stands for a transfer queue with all its queues. -/
def BceVhciDevice.Complete (dev : BceVhciDevice) : Prop :=
  ∀ e q, dev.tq[e]? = some q → hasBit dev.tqMask e = true → q.queues.Complete (tqDirOf e)

def BceVhci.Complete (s : BceVhci) : Prop :=
  ∀ (devid : Nat) (dev : BceVhciDevice), s.devices[devid]? = some (some dev) → dev.Complete

/-- The mask of a device, if there is the device. -/
def BceVhci.tqMaskOf (s : BceVhci) (devid : Nat) : Option (BitVec 32) :=
  (s.devices[devid]?.bind id).map BceVhciDevice.tqMask

/-! ## The calls -/

inductive EndpointCall where
  | enableDevice (portnum ep0Address : Nat) (create : CommandOutcome) (c : TqCreation)
  | addEndpoint (rootHub : Bool) (portnum bEndpointAddress : Nat) (c : TqCreation)
deriving DecidableEq, Repr

namespace EndpointCall

def run (s : BceVhci) : EndpointCall → Except VhciTable (EndpointResult × BceVhci)
  | .enableDevice portnum ep0Address create c =>
    bceVhciEnableDevice portnum ep0Address create c s
  | .addEndpoint rootHub portnum bEndpointAddress c =>
    bceVhciAddEndpoint rootHub portnum bEndpointAddress c s

/-- What becomes of the queues, if the call creates any. -/
def creation : EndpointCall → TqCreation
  | .enableDevice _ _ _ c => c
  | .addEndpoint _ _ _ c => c

/-- The directions of the queues the call creates: a new device's on a port that has
none, and an endpoint's that is not in the mask yet. -/
def creates (s : BceVhci) : EndpointCall → Option TqDir
  | .enableDevice portnum _ create _ =>
    if s.portToDevice[portnum]? = some 0 ∧ create.status = 0 ∧ create.param2 % 256 < 16 then
      some .bidirectional
    else none
  | .addEndpoint rootHub portnum bEndpointAddress _ =>
    if rootHub then none
    else
      match s.portToDevice[portnum]?.bind fun devid => s.devices[devid]?.bind id with
      | none => none
      | some vdev =>
        if hasBit vdev.tqMask (bceVhciEndpointIndex bEndpointAddress) then none
        else some (if bEndpointAddress &&& 0x80 ≠ 0 then .fromDevice else .toDevice)

/-- All the queues that the call creates can be created. -/
def Created (call : EndpointCall) (s : BceVhci) : Prop :=
  ∀ dir ∈ call.creates s, call.creation.Complete dir

instance (call : EndpointCall) (s : BceVhci) : Decidable (call.Created s) :=
  inferInstanceAs (Decidable (∀ dir ∈ (_ : Option TqDir), _))

/-- What the call has to do: it leaves each bit with its queues, and if its own cannot
be created, it fails and publishes nothing. -/
def Reports (call : EndpointCall) (s : BceVhci) : Prop :=
  ∀ r s', call.run s = .ok (r, s') → s'.Complete ∧
    (¬call.Created s → r.status ≠ 0 ∧ r.hcpriv = none ∧ s'.portToDevice = s.portToDevice ∧
      ∀ devid, s'.tqMaskOf devid = s.tqMaskOf devid)

end EndpointCall

/-- The controller, from when it has no devices. -/
def endpointCallSystem : StepSystem BceVhci EndpointCall where
  init s := s.devices = .replicate 16 none
  step call s := (call.run s).toOption.map Prod.snd

/-! ## What a call does -/

/-- The device with one more transfer queue, or with none besides this one. -/
def BceVhciDevice.publish (dev : BceVhciDevice) (e : Nat) (he : e < 32) (q : BceVhciTq) :
    BceVhciDevice where
  tq := dev.tq.set e q
  tqMask := setBit dev.tqMask e

/-- What a call comes to, its queues created or not. -/
inductive EndpointEffect (s : BceVhci) (call : EndpointCall) : EndpointResult → BceVhci → Prop where
  | none {r : EndpointResult} (hnone : call.creates s = none) : EndpointEffect s call r s
  | enabled {devid addr : Nat} {ports : Vector Nat 16} {q : BceVhciTq} (hdev : devid < 16)
      (hdir : call.creates s = some .bidirectional) :
      EndpointEffect s call ⟨0, some ⟨devid, 0⟩⟩
        { s with
          portToDevice := ports
          devices := s.devices.set devid (some (BceVhciDevice.zero.publish 0 (by decide)
            (q.create devid addr .bidirectional call.creation))) }
  | added {devid addr e : Nat} {dev : BceVhciDevice} {dir : TqDir} {q : BceVhciTq}
      (hdev : devid < 16) (he : e < 32) (hold : s.devices[devid]? = some (some dev))
      (hdir : call.creates s = some dir) (hnew : hasBit dev.tqMask e = false)
      (hof : e ≠ 0 → tqDirOf e = dir) :
      EndpointEffect s call ⟨0, some ⟨devid, e⟩⟩
        { s with
          devices := s.devices.set devid (some (dev.publish e he
            (q.create devid addr dir call.creation))) }

section Calls

variable {s s' : BceVhci} {r : EndpointResult} {portnum addr : Nat} {c : TqCreation}

theorem enableDevice_effect {create : CommandOutcome}
    (h : bceVhciEnableDevice portnum addr create c s = .ok (r, s')) :
    EndpointEffect s (.enableDevice portnum addr create c) r s' := by
  unfold bceVhciEnableDevice at h
  obtain ⟨devid, hport, h⟩ := Except.bind_eq_ok_iff.mp h
  rw [Table.get_eq_ok_iff] at hport
  split at h
  · next hused =>
    cases h
    refine .none (if_neg fun hc => hused ?_)
    exact Option.some.inj (hport.symm.trans hc.1)
  next hfree =>
  split at h
  · next hfailed =>
    cases h
    exact .none (if_neg fun hc => hfailed hc.2.1)
  next hok =>
  unfold bceVhciInstallDevice at h
  obtain ⟨ports, -, h⟩ := Except.bind_eq_ok_iff.mp h
  obtain ⟨devices, hfirst, h⟩ := Except.bind_eq_ok_iff.mp h
  obtain ⟨q, -, h⟩ := Except.bind_eq_ok_iff.mp h
  obtain ⟨tq, htq, h⟩ := Except.bind_eq_ok_iff.mp h
  obtain ⟨devices', hsecond, h⟩ := Except.bind_eq_ok_iff.mp h
  obtain ⟨hdev, rfl⟩ := Table.set_eq_ok_iff.mp hfirst
  obtain ⟨_, rfl⟩ := Table.set_eq_ok_iff.mp htq
  obtain ⟨_, rfl⟩ := Table.set_eq_ok_iff.mp hsecond
  cases h
  -- the device is stored before it has its queue, and again after
  rw [Vector.set_set]
  refine .enabled hdev (if_pos ⟨?_, not_not.mp hok, hdev⟩)
  rw [hport, not_not.mp hfree]

theorem bceVhciEndpointIndex_dir (addr : Nat) (h : bceVhciEndpointIndex addr ≠ 0) :
    tqDirOf (bceVhciEndpointIndex addr) = if addr &&& 0x80 ≠ 0 then .fromDevice else .toDevice := by
  have hlow : addr &&& 0xf < 16 := Nat.and_lt_two_pow addr (n := 4) (by decide)
  unfold tqDirOf
  rw [if_neg h]
  unfold bceVhciEndpointIndex
  by_cases hin : addr &&& 0x80 ≠ 0
  · have hhigh : ¬0x10 + (addr &&& 0xf) < 0x10 := by omega
    rw [if_pos hin, if_pos hin, if_neg hhigh]
  · rw [if_neg hin, if_neg hin, if_pos hlow]

theorem addEndpoint_effect {rootHub : Bool}
    (h : bceVhciAddEndpoint rootHub portnum addr c s = .ok (r, s')) :
    EndpointEffect s (.addEndpoint rootHub portnum addr c) r s' := by
  unfold bceVhciAddEndpoint at h
  obtain ⟨devid, hport, h⟩ := Except.bind_eq_ok_iff.mp h
  obtain ⟨dev, hdev, h⟩ := Except.bind_eq_ok_iff.mp h
  rw [Table.get_eq_ok_iff] at hport hdev
  cases rootHub with
  | true =>
    cases h
    exact .none rfl
  | false =>
    have hcreates : EndpointCall.creates s (.addEndpoint false portnum addr c) =
        dev.bind fun vdev => if hasBit vdev.tqMask (bceVhciEndpointIndex addr) then none
          else some (if addr &&& 0x80 ≠ 0 then .fromDevice else .toDevice) := by
      simp only [EndpointCall.creates, hport, Option.bind_some, hdev, id]
      cases dev <;> rfl
    cases dev with
    | none =>
      cases h
      exact .none hcreates
    | some vdev =>
      simp only [Bool.false_eq_true, if_false] at h
      split at h
      · next hbit =>
        cases h
        exact .none (hcreates.trans (if_pos hbit))
      next hbit =>
      obtain ⟨q, -, h⟩ := Except.bind_eq_ok_iff.mp h
      obtain ⟨tq, htq, h⟩ := Except.bind_eq_ok_iff.mp h
      obtain ⟨devices, hset, h⟩ := Except.bind_eq_ok_iff.mp h
      obtain ⟨he, rfl⟩ := Table.set_eq_ok_iff.mp htq
      obtain ⟨hlt, rfl⟩ := Table.set_eq_ok_iff.mp hset
      cases h
      exact .added hlt he hdev (hcreates.trans (if_neg hbit)) (by simpa using hbit)
        (bceVhciEndpointIndex_dir addr)

theorem EndpointCall.run_effect {call : EndpointCall} (h : call.run s = .ok (r, s')) :
    EndpointEffect s call r s' := by
  cases call with
  | enableDevice portnum addr create c => exact enableDevice_effect h
  | addEndpoint rootHub portnum addr c => exact addEndpoint_effect h

end Calls

/-! ## What a call keeps -/

/-- The control endpoint is in the mask of every device, so that no other call creates
its queues. -/
def BceVhci.HasControl (s : BceVhci) : Prop :=
  ∀ (devid : Nat) (dev : BceVhciDevice), s.devices[devid]? = some (some dev) →
    hasBit dev.tqMask 0 = true

theorem hasBit_setBit_iff {mask : BitVec 32} {e e' : Nat} (he : e < 32) (he' : e' < 32) :
    hasBit (setBit mask e) e' = true ↔ e = e' ∨ hasBit mask e' = true := by
  rw [hasBit_eq _ (by omega), hasBit_eq _ (by omega),
    getLsbD_setBit mask (by omega) he' (by decide)]
  simp

theorem BceVhciDevice.Complete.publish {dev : BceVhciDevice} {e : Nat} {he : e < 32}
    {q : BceVhciTq} (h : dev.Complete) (hq : q.queues.Complete (tqDirOf e)) :
    (dev.publish e he q).Complete := by
  intro e' q' hget hbit
  have he' : e' < 32 := (Vector.getElem?_eq_some_iff.mp hget).1
  change (dev.tq.set e q)[e']? = some q' at hget
  by_cases heq : e = e'
  · subst heq
    rw [Vector.getElem?_set_self] at hget
    obtain rfl := Option.some.inj hget
    exact hq
  · rw [Vector.getElem?_set_ne he heq] at hget
    obtain hsame | hbit := (hasBit_setBit_iff he he').mp hbit
    · exact absurd hsame heq
    · exact h e' q' hget hbit

theorem BceVhciDevice.zero_complete : BceVhciDevice.zero.Complete := by
  intro e q hget hbit
  have he : e < 32 := (Vector.getElem?_eq_some_iff.mp hget).1
  rw [hasBit_eq _ (by omega)] at hbit
  simp [BceVhciDevice.zero] at hbit

/-- What holds of the devices holds with one of them replaced, if it holds of that. -/
theorem forall_devices_set {P : BceVhciDevice → Prop} {t : Vector (Option BceVhciDevice) 16}
    {devid : Nat} {dev : BceVhciDevice} (hdev : devid < 16) (hP : P dev)
    (h : ∀ (i : Nat) (d : BceVhciDevice), t[i]? = some (some d) → P d) :
    ∀ (i : Nat) (d : BceVhciDevice), (t.set devid (some dev))[i]? = some (some d) → P d := by
  intro i d hget
  by_cases heq : devid = i
  · subst heq
    rw [Vector.getElem?_set_self] at hget
    obtain rfl := Option.some.inj (Option.some.inj hget)
    exact hP
  · rw [Vector.getElem?_set_ne hdev heq] at hget
    exact h i d hget

section Keeps

variable {s s' : BceVhci} {call : EndpointCall} {r : EndpointResult}

theorem EndpointEffect.hasControl (h : EndpointEffect s call r s') (hs : s.HasControl) :
    s'.HasControl := by
  cases h with
  | none => exact hs
  | enabled hdev =>
    refine forall_devices_set hdev ?_ hs
    exact (hasBit_setBit_iff (by decide) (by decide)).mpr (.inl rfl)
  | added hdev he hold =>
    refine forall_devices_set hdev ?_ hs
    exact (hasBit_setBit_iff he (by decide)).mpr (.inr (hs _ _ hold))

/-- With its queues created, a call leaves every bit with its queues. -/
theorem EndpointEffect.complete (h : EndpointEffect s call r s') (hs : s.Complete)
    (hcontrol : s.HasControl) (hcreated : call.Created s) : s'.Complete := by
  cases h with
  | none => exact hs
  | enabled hdev hdir =>
    refine forall_devices_set hdev (BceVhciDevice.zero_complete.publish ?_) hs
    exact queues_create_complete_iff.mpr (hcreated _ hdir)
  | added hdev he hold hdir hnew hof =>
    refine forall_devices_set hdev ((hs _ _ hold).publish ?_) hs
    -- the control endpoint is in the mask
    rw [hof ?_]
    · exact queues_create_complete_iff.mpr (hcreated _ hdir)
    · rintro rfl
      rw [hcontrol _ _ hold] at hnew
      cases hnew

theorem endpointCallSystem_step (h : endpointCallSystem.step call s = some s') :
    ∃ r, call.run s = .ok (r, s') := by
  obtain ⟨⟨r, t⟩, hrun, rfl⟩ := Option.map_eq_some_iff.mp h
  cases hcall : call.run s with
  | error e =>
    rw [hcall] at hrun
    cases hrun
  | ok p =>
    rw [hcall] at hrun
    obtain rfl := Option.some.inj hrun
    exact ⟨r, rfl⟩

theorem reachable_complete (h : endpointCallSystem.Reachable EndpointCall.Created s) :
    s.Complete ∧ s.HasControl := by
  refine h.invariant (I := fun s => s.Complete ∧ s.HasControl) ?_ ?_
  · intro s hinit
    have hnone : ∀ (devid : Nat) (dev : BceVhciDevice), s.devices[devid]? ≠ some (some dev) := by
      intro devid dev hget
      rw [show s.devices = .replicate 16 none from hinit] at hget
      obtain ⟨hlt, hget⟩ := Vector.getElem?_eq_some_iff.mp hget
      simp at hget
    exact ⟨fun devid dev hget => absurd hget (hnone devid dev),
      fun devid dev hget => absurd hget (hnone devid dev)⟩
  · intro call s s' _ hI hcreated hstep
    obtain ⟨r, hrun⟩ := endpointCallSystem_step hstep
    have heffect := EndpointCall.run_effect hrun
    exact ⟨heffect.complete hI.1 hI.2 hcreated, heffect.hasControl hI.2⟩

/-- A call that creates queues stays inside the tables. -/
theorem returns_of_creates {dir : TqDir} (h : call.creates s = some dir) :
    Returns (call.run s) := by
  cases call with
  | enableDevice portnum addr create c =>
    simp only [EndpointCall.creates] at h
    split at h
    · next hnew =>
      obtain ⟨hport, hok, hdev⟩ := hnew
      have hlt : portnum < 16 := (Vector.getElem?_eq_some_iff.mp hport).1
      refine returns_bind.mpr ⟨0, Table.get_eq_ok_iff.mpr hport, ?_⟩
      rw [if_neg (not_not.mpr rfl), if_neg (not_not.mpr hok)]
      exact (installDevice_returns_iff hlt).mpr hdev
    · cases h
  | addEndpoint rootHub portnum addr c =>
    simp only [EndpointCall.creates] at h
    split at h
    · cases h
    next hhub =>
    split at h
    · cases h
    · next vdev hfound =>
      obtain ⟨devid, hport, hfound⟩ := Option.bind_eq_some_iff.mp hfound
      obtain ⟨dev, hdev, rfl⟩ := Option.bind_eq_some_iff.mp hfound
      split at h
      · cases h
      next hbit =>
      refine returns_bind.mpr ⟨devid, Table.get_eq_ok_iff.mpr hport, ?_⟩
      refine returns_bind.mpr ⟨some vdev, Table.get_eq_ok_iff.mpr hdev, ?_⟩
      simp only [if_neg hhub, if_neg hbit]
      obtain ⟨q, hq⟩ := Table.returns_get_iff.mpr (bceVhciEndpointIndex_lt addr)
      refine returns_bind.mpr ⟨q, hq, returns_bind.mpr ?_⟩
      obtain ⟨tq, htq⟩ := Table.returns_set_iff.mpr (bceVhciEndpointIndex_lt addr)
      refine ⟨tq, htq, returns_bind.mpr ?_⟩
      obtain ⟨devices, hset⟩ := Table.returns_set_iff.mpr (Vector.getElem?_eq_some_iff.mp hdev).1
      exact ⟨devices, hset, returns_ok _⟩

/-- Whatever became of the queues, the call succeeds. -/
theorem run_of_creates {dir : TqDir} (h : call.creates s = some dir) :
    ∃ r s', call.run s = .ok (r, s') ∧ r.status = 0 := by
  obtain ⟨⟨r, s'⟩, hrun⟩ := returns_of_creates h
  refine ⟨r, s', hrun, ?_⟩
  cases EndpointCall.run_effect hrun with
  | none hnone =>
    rw [hnone] at h
    cases h
  | enabled => rfl
  | added => rfl

end Keeps

/-- **The queues behind the endpoints.** Over the runs whose calls can create all the
queues they want: every bit of a mask has its queues, and the next call does what it has
to if and only if its queues can be created too. -/
theorem endpointQueues_iff {s : BceVhci}
    (h : endpointCallSystem.Reachable EndpointCall.Created s) :
    s.Complete ∧ ∀ call : EndpointCall, call.Reports s ↔ call.Created s := by
  obtain ⟨hcomplete, hcontrol⟩ := reachable_complete h
  refine ⟨hcomplete, fun call => ⟨fun hreports => ?_, fun hcreated r s' hrun => ?_⟩⟩
  · by_contra hfailed
    obtain ⟨dir, hdir, -⟩ : ∃ dir ∈ call.creates s, ¬call.creation.Complete dir := by
      unfold EndpointCall.Created at hfailed
      push Not at hfailed
      exact hfailed
    obtain ⟨r, s', hrun, hzero⟩ := run_of_creates hdir
    exact ((hreports r s' hrun).2 hfailed).1 hzero
  · refine ⟨(EndpointCall.run_effect hrun).complete hcomplete hcontrol hcreated, ?_⟩
    intro hfailed
    exact absurd hcreated hfailed

/-! ## A device without queues -/

/-- A device on port 1, and its first bulk endpoint. -/
def twoEndpoints : List EndpointCall :=
  [.enableDevice 1 0 ⟨0, 1⟩ ⟨true, true, true⟩, .addEndpoint false 1 0x81 ⟨true, true, false⟩]

theorem endpointQueues_two :
    (endpointCallSystem.after EndpointCall.Created twoEndpoints .zero).Complete ∧
      ((EndpointCall.addEndpoint false 1 0x02 ⟨false, false, false⟩).Reports
          (endpointCallSystem.after EndpointCall.Created twoEndpoints .zero) ↔
        (EndpointCall.addEndpoint false 1 0x02 ⟨false, false, false⟩).Created
          (endpointCallSystem.after EndpointCall.Created twoEndpoints .zero)) := by
  have hreach : endpointCallSystem.Reachable EndpointCall.Created
      (endpointCallSystem.after EndpointCall.Created twoEndpoints .zero) :=
    .after (.of_init rfl) (by decide +kernel)
  exact ⟨(endpointQueues_iff hreach).1, (endpointQueues_iff hreach).2 _⟩

/-- The first device, and no queue can be created for it. -/
def withoutQueues : EndpointCall := .enableDevice 1 0 ⟨0, 1⟩ ⟨false, false, false⟩

/-- The call succeeds, and endpoint zero is in the mask without a completion queue. -/
theorem endpointQueues_missing :
    ¬withoutQueues.Reports .zero ∧
      ¬∀ s, endpointCallSystem.Reachable (fun _ _ => True) s → s.Complete := by
  refine ⟨fun h => ?_, fun h => ?_⟩
  · obtain ⟨r, s', hrun, hzero⟩ := run_of_creates
      (show withoutQueues.creates .zero = some .bidirectional by decide +kernel)
    have hfailed : ¬withoutQueues.Created .zero := by decide +kernel
    exact ((h r s' hrun).2 hfailed).1 hzero
  · have hreach : endpointCallSystem.Reachable (fun _ _ => True)
        (endpointCallSystem.after (fun _ _ => True) [withoutQueues] .zero) :=
      .after (.of_init rfl) (by decide +kernel)
    have hcomplete := h _ hreach 1
      (BceVhciDevice.zero.publish 0 (by decide) ⟨1, 0, false, false, false⟩) (by decide +kernel)
      0 ⟨1, 0, false, false, false⟩ (by decide +kernel) (by decide +kernel)
    exact absurd hcomplete (by decide)

end BceDriver
