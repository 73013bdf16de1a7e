import BceDriver.Audio.HwDesc

/-!
# The card after its probe (`audio/audio.c`, `audio/pcm.c`)

Once `aaudio_probe` has registered the card, `aaudio_pcm_open` is called for its PCMs and
`aaudio_handle_cmd_timestamp` for the commands of the device. Both follow pointers the
probe may have left `NULL`, and a device id the device has chosen.

- `aaudioProbe`, `CardCall`, `AaudioCard.call`: the probe, and the calls after it.
- `aaudioProbe_probed`: the state of every subdevice after a probe that succeeds.
- `card_safe_iff`: the result.
-/

namespace BceDriver

/-! ## The probe -/

/-- What `aaudio_probe` finds. -/
structure AaudioProbeContent where
  /-- the status of what comes before `aaudio_init_cmd` -/
  setup : Int
  /-- what sending the alive notification returns -/
  alive : Int
  /-- whether the remote is alive in time -/
  remoteAlive : Bool
  /-- what `aaudio_cmd_get_device_list` returns -/
  deviceList : Int
  devs : List AaudioDevContent
  /-- what `aaudio_cmd_set_remote_access` returns -/
  remoteAccess : Int
  bs : AaudioBsContent
  /-- what `snd_card_register` returns -/
  sndCardRegister : Int

def aaudioInitCmd (p : AaudioProbeContent) : Except AaudioArray (Int × List AaudioSubdevice) :=
  if p.alive ≠ 0 then .ok (p.alive, [])
  else if !p.remoteAlive then .ok (-ETIMEDOUT, [])
  else if p.deviceList ≠ 0 then .ok (p.deviceList, [])
  else do
    let a ← p.devs.foldlM aaudioInitDev ⟨[], 0⟩
    return (p.remoteAccess, a.list)

/-- `aaudio_probe`: its status, and `subdevice_list` if that is 0. -/
def aaudioProbe (p : AaudioProbeContent) : Except AaudioArray (Int × List AaudioSubdevice) :=
  if p.setup ≠ 0 then .ok (p.setup, [])
  else do
    let cmd ← aaudioInitCmd p
    if cmd.1 ≠ 0 then return (-EINVAL, [])
    let bs ← aaudioInitBs p.bs cmd.2
    if bs.1 ≠ 0 then return (-EINVAL, [])
    if p.sndCardRegister ≠ 0 then return (-EINVAL, [])
    return (0, bs.2)

/-! ## The calls -/

/-- The output stream of a subdevice, in the hands of its PCM. -/
structure AaudioPlayback where
  /-- `runtime->hw` of the substream -/
  hw : Option SndPcmHardware
  /-- `aaudio_pcm_open` waits for `start_io_compl` -/
  opening : Bool
  needsStartIoCompl : Bool
  startIoCompl : Bool
  remoteTimestamp : Nat
deriving DecidableEq, Repr

structure AaudioCard where
  list : List AaudioSubdevice
  /-- for each index in the list -/
  playback : Nat → AaudioPlayback

/-- The card as it was registered. -/
def AaudioCard.registered (list : List AaudioSubdevice) : AaudioCard where
  list := list
  playback := fun _ => ⟨none, false, false, false, 0⟩

/-- The pointers that are followed as they are, and are `NULL`. -/
inductive AaudioNull where
  /-- `alsa_hw_desc`, in `aaudio_pcm_open` -/
  | alsaHwDesc
  /-- `sdev`, in `aaudio_handle_timestamp` -/
  | subdevice
  /-- `sdev->pcm` there -/
  | pcm
deriving DecidableEq, Repr

def AaudioCard.setPlayback (s : AaudioCard) (k : Nat) (p : AaudioPlayback) : AaudioCard :=
  { s with playback := Function.update s.playback k p }

/-- `aaudio_pcm_open` for the PCM of subdevice `k`, if it has one, up to the wait. The PCM
has one playback substream. -/
def aaudioPcmOpen (k : Nat) (s : AaudioCard) : Except AaudioNull AaudioCard :=
  match s.list[k]? with
  | none => .ok s
  | some sdev =>
    if sdev.pcm then
      match (sdev.stream .output).alsaHwDesc with
      | none => .error .alsaHwDesc
      | some hw => .ok (s.setPlayback k { s.playback k with
          hw := some hw
          opening := true
          needsStartIoCompl := true
          startIoCompl := false })
    else .ok s

/-- `aaudio_pcm_open` from its wait on, which is completed or times out. -/
def aaudioPcmOpened (k boottime : Nat) (s : AaudioCard) : AaudioCard :=
  if (s.playback k).opening then
    s.setPlayback k { s.playback k with
      opening := false
      startIoCompl := false
      remoteTimestamp := boottime }
  else s

/-- `aaudio_handle_timestamp` for subdevice `k` -/
def aaudioHandleTimestamp (k osTimestamp : Nat) (sdev : AaudioSubdevice) (s : AaudioCard) :
    Except AaudioNull AaudioCard :=
  if sdev.pcm then
    if (s.playback k).needsStartIoCompl then
      .ok (s.setPlayback k { s.playback k with startIoCompl := true, needsStartIoCompl := false })
    else .ok (s.setPlayback k { s.playback k with remoteTimestamp := osTimestamp })
  else .error .pcm

/-- `aaudio_find_dev_by_dev_id`: the subdevice, and its index. -/
def aaudioFindDevByDevId (devId : Nat) : List AaudioSubdevice → Option (Nat × AaudioSubdevice)
  | [] => none
  | sdev :: list =>
    if devId = sdev.devId then some (0, sdev)
    else (aaudioFindDevByDevId devId list).map fun found => (found.1 + 1, found.2)

/-- `aaudio_handle_cmd_timestamp`; `devid` is what reading the message leaves there. -/
def aaudioHandleCmdTimestamp (timeOs devid : Nat) (s : AaudioCard) :
    Except AaudioNull AaudioCard :=
  match aaudioFindDevByDevId devid s.list with
  | none => .error .subdevice
  | some (k, sdev) => aaudioHandleTimestamp k timeOs sdev s

inductive CardCall where
  | pcmOpen (k : Nat)
  | pcmOpened (k boottime : Nat)
  | updateTimestamp (timeOs devid : Nat)
deriving DecidableEq, Repr

def AaudioCard.call (s : AaudioCard) : CardCall → Except AaudioNull AaudioCard
  | .pcmOpen k => aaudioPcmOpen k s
  | .pcmOpened k boottime => .ok (aaudioPcmOpened k boottime s)
  | .updateTimestamp timeOs devid => aaudioHandleCmdTimestamp timeOs devid s

/-- `aaudio_create_hw_info` divided by zero for a stream of the subdevice. It is called with
one description for a stream, so the last call shows what each of them did. -/
def AaudioSubdevice.Divided (sdev : AaudioSubdevice) : Prop :=
  ∃ dir hw, (sdev.stream dir).alsaHwDesc = some hw ∧ hw.periods = none

/-! ## What it takes -/

/-- The subdevices that are made of the devices, as they are before their PCMs. -/
def AaudioProbeContent.subdevices (p : AaudioProbeContent) : List AaudioSubdevice :=
  (keptDevices p.devs).map Prod.snd

/-- The `BufferStruct` has a buffer for the stream of subdevice `k`. -/
def AaudioProbeContent.Buffered (p : AaudioProbeContent) (k : Nat) (dir : AaudioDir) : Prop :=
  ∃ i < p.bs.bs.numDevices.toNat, p.bs.Finds p.subdevices k dir i

/-- A stream with a buffer and a format that is supported has packets of some bytes. -/
def AaudioProbeContent.PacketsFit (p : AaudioProbeContent) : Prop :=
  ∀ k d sdev dir, (keptDevices p.devs)[k]? = some (d, sdev) → p.Buffered k dir →
    (aaudioGetAlsaFmtbit (sdev.stream dir).desc).isSome → (sdev.stream dir).desc.bytesPerPacket ≠ 0

/-- An open is of a PCM with a buffer and a supported format, a timestamp is for the id of a
subdevice that has a PCM. -/
def AaudioProbeContent.Allows (p : AaudioProbeContent) : CardCall → Prop
  | .pcmOpen k => ∀ d sdev, (keptDevices p.devs)[k]? = some (d, sdev) →
      sdev.Playable d.sndPcmNew →
      (aaudioGetAlsaFmtbit (sdev.stream .output).desc).isSome ∧ p.Buffered k .output
  | .pcmOpened _ _ => True
  | .updateTimestamp _ devid => ∃ d sdev,
      (keptDevices p.devs).find? (fun q => q.1.devId = devid) = some (d, sdev) ∧
        sdev.Playable d.sndPcmNew

/-! ## After the probe -/

/-- A subdevice after the probe, made of the device and with the buffers found for it. -/
structure Probed (found : AaudioDir → Prop) (d : AaudioDevContent) (sdev sdev' : AaudioSubdevice) :
    Prop where
  devId : sdev'.devId = d.devId
  pcm : sdev'.pcm = true ↔ sdev.Playable d.sndPcmNew
  hwDesc : ∀ dir, found dir →
    ∃ size, (sdev'.stream dir).alsaHwDesc = aaudioCreateHwInfo (sdev.stream dir).desc size
  noHwDesc : ∀ dir, ¬found dir → (sdev'.stream dir).alsaHwDesc = none

theorem forall₂_getElem? {α β : Type} {R : α → β → Prop} {l : List α} {l' : List β}
    (h : List.Forall₂ R l l') {k : Nat} {a : α} {b : β} (ha : l[k]? = some a)
    (hb : l'[k]? = some b) : R a b := by
  obtain ⟨hk, rfl⟩ := List.getElem?_eq_some_iff.mp ha
  obtain ⟨hk', rfl⟩ := List.getElem?_eq_some_iff.mp hb
  exact (List.forall₂_iff_get.mp h).2 k hk hk'

section Probe

variable {p : AaudioProbeContent} {list : List AaudioSubdevice}

theorem aaudioInitCmd_ok {cmd : Int × List AaudioSubdevice} (h : aaudioInitCmd p = .ok cmd)
    (hstatus : cmd.1 = 0) : ∃ a, p.devs.foldlM aaudioInitDev ⟨[], 0⟩ = .ok a ∧ cmd.2 = a.list := by
  unfold aaudioInitCmd at h
  split at h
  · next halive =>
    obtain rfl := Except.ok.inj h
    exact absurd hstatus halive
  · split at h
    · obtain rfl := Except.ok.inj h
      exact absurd hstatus (by decide)
    · split at h
      · next hlist =>
        obtain rfl := Except.ok.inj h
        exact absurd hstatus hlist
      · obtain ⟨a, ha, h⟩ := Except.bind_eq_ok_iff.mp h
        obtain rfl := Except.ok.inj h
        exact ⟨a, ha, rfl⟩

/-- A probe that succeeds has gone through `aaudio_init_cmd` and `aaudio_init_bs`. -/
theorem aaudioProbe_ok (h : aaudioProbe p = .ok (0, list)) :
    ∃ a, p.devs.foldlM aaudioInitDev ⟨[], 0⟩ = .ok a ∧
      aaudioInitBs p.bs a.list = .ok (0, list) := by
  unfold aaudioProbe at h
  split at h
  · next hsetup => exact absurd (Prod.mk.inj (Except.ok.inj h)).1 hsetup
  · obtain ⟨cmd, hcmd, h⟩ := Except.bind_eq_ok_iff.mp h
    split at h
    · cases h
    · next hstatus =>
      obtain ⟨a, ha, hlist⟩ := aaudioInitCmd_ok hcmd (not_not.mp hstatus)
      obtain ⟨bs, hbs, h⟩ := Except.bind_eq_ok_iff.mp h
      split at h
      · cases h
      · next hbsStatus =>
        split at h
        · cases h
        · obtain rfl := (Prod.mk.inj (Except.ok.inj h)).2
          have hzero : bs = (0, bs.2) := Prod.ext (not_not.mp hbsStatus) rfl
          exact ⟨a, ha, by rw [← hlist, hbs, ← hzero]⟩

theorem aaudioProbe_probed (h : aaudioProbe p = .ok (0, list)) :
    list.length = (keptDevices p.devs).length ∧
      ∀ k d sdev sdev', (keptDevices p.devs)[k]? = some (d, sdev) → list[k]? = some sdev' →
        Probed (p.Buffered k) d sdev sdev' := by
  obtain ⟨a, hcmd, hbs⟩ := aaudioProbe_ok h
  have hmade := aaudioInitDevs_made hcmd
  have hall : ∀ sdev ∈ a.list, sdev.Ok :=
    foldlM_keeps (P := fun a : AaudioSubdevices => ∀ sdev ∈ a.list, sdev.Ok)
      (fun _ _ _ h => aaudioInitDev_keeps h) (fun _ h => absurd h List.not_mem_nil) hcmd
  have hsubs := aaudioInitBs_described hall hbs
  have hsame : SameDevices p.subdevices a.list := by
    refine ⟨by rw [AaudioProbeContent.subdevices, List.length_map, hmade.length_eq], ?_⟩
    intro k sdev sdev' hget hget'
    obtain ⟨q, hq, rfl⟩ := List.getElem?_map.symm.trans hget |> Option.map_eq_some_iff.mp
    exact (forall₂_getElem? hmade hq hget').same
  refine ⟨hsubs.length.trans hmade.length_eq.symm, fun k d sdev sdev' hget hget' => ?_⟩
  obtain ⟨sdev₁, hget₁⟩ := getElem?_of_length hmade.length_eq.symm hget
  obtain ⟨hsame₁, hdevId, hpcm, hhw⟩ := forall₂_getElem? hmade hget hget₁
  have hsub := hsubs.subdevice k sdev₁ sdev' hget₁ hget'
  have hfound : ∀ dir, (∃ i < p.bs.bs.numDevices.toNat, p.bs.Finds a.list k dir i) ↔
      p.Buffered k dir := by
    intro dir
    unfold AaudioProbeContent.Buffered
    simp only [hsame.finds]
  refine ⟨hsub.same.devId.trans hdevId, ?_, fun dir hdir => ?_, fun dir hdir => ?_⟩
  · rw [hsub.pcm]
    exact hpcm
  · obtain ⟨size, hset⟩ := (hsub.stream dir).set ((hfound dir).mpr hdir)
    exact ⟨size, by rw [hset, hsame₁.desc]⟩
  · rw [(hsub.stream dir).kept fun h => hdir ((hfound dir).mp h)]
    exact hhw dir

end Probe

/-! ## The calls after it -/

section Calls

variable {found : AaudioDir → Prop} {d : AaudioDevContent} {sdev sdev' : AaudioSubdevice}

theorem aaudioCreateHwInfo_isSome (desc : AaudioAppleDescription) (size : Nat) :
    (aaudioCreateHwInfo desc size).isSome ↔ (aaudioGetAlsaFmtbit desc).isSome := by
  unfold aaudioCreateHwInfo
  rw [Option.isSome_map]

theorem aaudioCreateHwInfo_periods {desc : AaudioAppleDescription} {size : Nat}
    {hw : SndPcmHardware} (h : aaudioCreateHwInfo desc size = some hw) :
    hw.periods = none ↔ desc.bytesPerPacket = 0 := by
  obtain ⟨formats, -, rfl⟩ := Option.map_eq_some_iff.mp h
  dsimp only
  split
  · next hzero => exact iff_of_true rfl hzero
  · next hpos => exact iff_of_false nofun hpos

theorem Probed.hwDesc_isSome (h : Probed found d sdev sdev') (dir : AaudioDir) :
    (sdev'.stream dir).alsaHwDesc.isSome ↔
      (aaudioGetAlsaFmtbit (sdev.stream dir).desc).isSome ∧ found dir := by
  by_cases hdir : found dir
  · obtain ⟨size, hset⟩ := h.hwDesc dir hdir
    rw [hset, aaudioCreateHwInfo_isSome]
    exact ⟨fun hs => ⟨hs, hdir⟩, fun hs => hs.1⟩
  · rw [h.noHwDesc dir hdir]
    exact ⟨nofun, fun hs => absurd hs.2 hdir⟩

theorem Probed.divided_iff (h : Probed found d sdev sdev') :
    sdev'.Divided ↔ ∃ dir, found dir ∧ (aaudioGetAlsaFmtbit (sdev.stream dir).desc).isSome ∧
      (sdev.stream dir).desc.bytesPerPacket = 0 := by
  unfold AaudioSubdevice.Divided
  refine exists_congr fun dir => ?_
  constructor
  · rintro ⟨hw, hsome, hperiods⟩
    obtain ⟨hfmt, hdir⟩ := (h.hwDesc_isSome dir).mp (hsome ▸ rfl)
    obtain ⟨size, hset⟩ := h.hwDesc dir hdir
    exact ⟨hdir, hfmt, (aaudioCreateHwInfo_periods (hset.symm.trans hsome)).mp hperiods⟩
  · rintro ⟨hdir, hfmt, hzero⟩
    obtain ⟨size, hset⟩ := h.hwDesc dir hdir
    obtain ⟨hw, hhw⟩ := Option.isSome_iff_exists.mp
      ((aaudioCreateHwInfo_isSome (sdev.stream dir).desc size).mpr hfmt)
    exact ⟨hw, hset.trans hhw, (aaudioCreateHwInfo_periods hhw).mpr hzero⟩

end Calls

/-! ## The result -/

section Result

variable {p : AaudioProbeContent} {list : List AaudioSubdevice}

/-- The device with an id and the subdevice with it are found at one place. -/
theorem aaudioFindDevByDevId_rel {R : AaudioDevContent × AaudioSubdevice → AaudioSubdevice → Prop}
    {kept : List (AaudioDevContent × AaudioSubdevice)} (h : List.Forall₂ R kept list)
    (hdevId : ∀ q sdev, R q sdev → sdev.devId = q.1.devId) (devId : Nat) :
    Option.Rel (fun q found => R q found.2) (kept.find? fun q => q.1.devId = devId)
      (aaudioFindDevByDevId devId list) := by
  induction h with
  | nil => exact .none
  | @cons q sdev kept list hq _ ih =>
    rw [aaudioFindDevByDevId, hdevId q sdev hq]
    by_cases hid : q.1.devId = devId
    · rw [List.find?_cons_of_pos (by simpa using hid), if_pos hid.symm]
      exact .some hq
    · rw [List.find?_cons_of_neg (by simpa using hid), if_neg (Ne.symm hid)]
      generalize aaudioFindDevByDevId devId list = found at ih ⊢
      generalize kept.find? _ = q' at ih ⊢
      cases ih with
      | none => exact .none
      | some hrel => exact .some hrel

/-- A call leaves the list alone. -/
theorem AaudioCard.call_list {s s' : AaudioCard} {call : CardCall} (h : s.call call = .ok s') :
    s'.list = s.list := by
  cases call with
  | pcmOpen k =>
    replace h : aaudioPcmOpen k s = .ok s' := h
    unfold aaudioPcmOpen at h
    split at h
    · cases h
      rfl
    · split at h
      · split at h
        · cases h
        · cases h
          rfl
      · cases h
        rfl
  | pcmOpened k boottime =>
    obtain rfl : aaudioPcmOpened k boottime s = s' := Except.ok.inj h
    unfold aaudioPcmOpened
    split
    · rfl
    · rfl
  | updateTimestamp timeOs devid =>
    replace h : aaudioHandleCmdTimestamp timeOs devid s = .ok s' := h
    unfold aaudioHandleCmdTimestamp at h
    split at h
    · cases h
    · unfold aaudioHandleTimestamp at h
      split at h
      · split at h
        · cases h
          rfl
        · cases h
          rfl
      · cases h

theorem returns_aaudioHandleTimestamp {k osTimestamp : Nat} {sdev : AaudioSubdevice}
    {s : AaudioCard} :
    Returns (aaudioHandleTimestamp k osTimestamp sdev s) ↔ sdev.pcm = true := by
  unfold aaudioHandleTimestamp
  split
  · next hpcm =>
    refine iff_of_true ?_ hpcm
    split
    · exact returns_ok _
    · exact returns_ok _
  · next hpcm => exact iff_of_false nofun hpcm

theorem returns_aaudioPcmOpen_iff (h : aaudioProbe p = .ok (0, list)) {s : AaudioCard}
    (hlist : s.list = list) (k : Nat) :
    Returns (aaudioPcmOpen k s) ↔ p.Allows (.pcmOpen k) := by
  obtain ⟨hlen, hprobed⟩ := aaudioProbe_probed h
  unfold aaudioPcmOpen
  rw [hlist]
  cases hget : list[k]? with
  | none =>
    refine iff_of_true (returns_ok _) fun d sdev hkept => ?_
    obtain ⟨sdev', hget'⟩ := getElem?_of_length hlen hkept
    exact absurd (hget.symm.trans hget') nofun
  | some sdev' =>
    obtain ⟨⟨d, sdev⟩, hkept⟩ := getElem?_of_length hlen.symm hget
    have hsub := hprobed k d sdev sdev' hkept hget
    have hallows : p.Allows (.pcmOpen k) ↔ (sdev.Playable d.sndPcmNew →
        (aaudioGetAlsaFmtbit (sdev.stream .output).desc).isSome ∧ p.Buffered k .output) := by
      constructor
      · exact fun h => h d sdev hkept
      · intro h d' sdev'' hkept'
        cases hkept.symm.trans hkept'
        exact h
    rw [hallows, ← hsub.pcm, ← hsub.hwDesc_isSome]
    dsimp only
    split
    · next hpcm =>
      split
      · next hnone => exact iff_of_false nofun fun h => by simpa [hnone] using h hpcm
      · next hw hsome => exact iff_of_true (returns_ok _) fun _ => by simp [hsome]
    · next hpcm => exact iff_of_true (returns_ok _) fun h => absurd h hpcm

theorem returns_aaudioHandleCmdTimestamp_iff (h : aaudioProbe p = .ok (0, list)) {s : AaudioCard}
    (hlist : s.list = list) (timeOs devid : Nat) :
    Returns (aaudioHandleCmdTimestamp timeOs devid s) ↔
      p.Allows (.updateTimestamp timeOs devid) := by
  obtain ⟨hlen, hprobed⟩ := aaudioProbe_probed h
  have hmade : List.Forall₂ (fun q sdev' => sdev'.devId = q.1.devId ∧
      (sdev'.pcm = true ↔ q.2.Playable q.1.sndPcmNew)) (keptDevices p.devs) list := by
    refine List.forall₂_iff_get.mpr ⟨hlen.symm, fun k hk hk' => ?_⟩
    have hsub := hprobed k _ _ _ (List.getElem?_eq_getElem hk) (List.getElem?_eq_getElem hk')
    exact ⟨hsub.devId, hsub.pcm⟩
  -- both sides look for the first device of the identifier
  have hrel := aaudioFindDevByDevId_rel hmade (fun _ _ h => h.1) devid
  unfold aaudioHandleCmdTimestamp AaudioProbeContent.Allows
  rw [hlist]
  generalize aaudioFindDevByDevId devid list = found at hrel ⊢
  dsimp only
  generalize (keptDevices p.devs).find? _ = q at hrel ⊢
  cases hrel with
  | none => exact iff_of_false nofun fun ⟨_, _, h, _⟩ => nomatch h
  | @some q found hrel =>
    obtain ⟨d, sdev⟩ := q
    rw [returns_aaudioHandleTimestamp, hrel.2]
    constructor
    · exact fun h => ⟨d, sdev, rfl, h⟩
    · rintro ⟨d', sdev', heq, h⟩
      cases heq
      exact h

/-- A call follows no pointer that is `NULL` exactly if it is allowed. -/
theorem returns_call_iff (h : aaudioProbe p = .ok (0, list)) {s : AaudioCard}
    (hlist : s.list = list) (call : CardCall) : Returns (s.call call) ↔ p.Allows call := by
  cases call with
  | pcmOpen k => exact returns_aaudioPcmOpen_iff h hlist k
  | pcmOpened k boottime => exact iff_of_true (returns_ok _) trivial
  | updateTimestamp timeOs devid => exact returns_aaudioHandleCmdTimestamp_iff h hlist timeOs devid

/-- The probe has divided by zero nowhere exactly if the packets fit. -/
theorem not_divided_iff (h : aaudioProbe p = .ok (0, list)) :
    (∀ sdev ∈ list, ¬sdev.Divided) ↔ p.PacketsFit := by
  obtain ⟨hlen, hprobed⟩ := aaudioProbe_probed h
  constructor
  · intro hnone k d sdev dir hkept hbuffered hfmt hzero
    obtain ⟨sdev', hget⟩ := getElem?_of_length hlen hkept
    refine hnone sdev' (List.mem_of_getElem? hget) ?_
    exact (hprobed k d sdev sdev' hkept hget).divided_iff.mpr ⟨dir, hbuffered, hfmt, hzero⟩
  · intro hfit sdev' hmem hdivided
    obtain ⟨k, hget⟩ := List.mem_iff_getElem?.mp hmem
    obtain ⟨⟨d, sdev⟩, hkept⟩ := getElem?_of_length hlen.symm hget
    obtain ⟨dir, hbuffered, hfmt, hzero⟩ :=
      (hprobed k d sdev sdev' hkept hget).divided_iff.mp hdivided
    exact hfit k d sdev dir hkept hbuffered hfmt hzero

/-- **The card.** After a probe that succeeds, no call follows a pointer that is `NULL` and
the probe has divided by zero nowhere, exactly if every stream with a buffer and a supported
format has packets of some bytes, and every call is allowed. -/
theorem card_safe_iff (p : AaudioProbeContent) (list : List AaudioSubdevice)
    (h : aaudioProbe p = .ok (0, list)) (calls : List CardCall) :
    (Returns (calls.foldlM AaudioCard.call (.registered list)) ∧ ∀ sdev ∈ list, ¬sdev.Divided) ↔
      (∀ call ∈ calls, p.Allows call) ∧ p.PacketsFit := by
  have hcalls : Returns (calls.foldlM AaudioCard.call (.registered list)) ↔
      ∀ call ∈ calls, p.Allows call :=
    foldlM_returns_iff (P := fun s : AaudioCard => s.list = list)
      (fun s call s' hs hstep => (AaudioCard.call_list hstep).trans hs)
      (fun s call _ hs => returns_call_iff h hs call) rfl
  rw [hcalls, not_divided_iff h]

end Result

/-! ## A speaker -/

/-- The reply with the message and what is behind its base. -/
def replyBytes (msg : UInt8) (payload : List UInt8) : List UInt8 :=
  aaudioTag 1 ++ [2] ++ List.replicate 8 0 ++ [msg, 0, 0, 0, 0, 0, 0, 0] ++ payload

/-- A property of fewer than 256 bytes. -/
def propertyBytes (data : List UInt8) : List UInt8 :=
  replyBytes 8 (List.replicate 20 0 ++ .ofNat data.length :: List.replicate 7 0 ++ data)

def speakerUidReply : AaudioReply where
  bytes := propertyBytes (speakerUid.take 7)
  header := by decide +kernel
  fits := by decide +kernel

/-- 44.1 kHz, linear PCM, and packets of this size with two floats of 32 bits. -/
def speakerFormatReply (bytesPerPacket : UInt8) : AaudioReply where
  bytes := propertyBytes ([0, 0, 0, 0, 0x80, 0x88, 0xe5, 0x40, 0x6d, 0x63, 0x70, 0x6c, 9, 0, 0, 0,
    bytesPerPacket, 0, 0, 0, 1, 0, 0, 0, 8, 0, 0, 0, 2, 0, 0, 0, 32, 0, 0, 0, 0, 0, 0, 0])
  header := by simp [propertyBytes, replyBytes, aaudioTag, AAUDIO_MSG_HEADER_SIZE]
  fits := by simp [propertyBytes, replyBytes, aaudioTag, AAUDIO_BCE_QUEUE_ELEMENT_SIZE]

def noInputStreamsReply : AaudioReply where
  bytes := replyBytes 25 (List.replicate 8 0)
  header := by decide +kernel
  fits := by decide +kernel

def outputStreamReply : AaudioReply where
  bytes := replyBytes 27 ([1, 0, 0, 0, 0, 0, 0, 0] ++ [1, 0, 0, 0, 0, 0, 0, 0])
  header := by decide +kernel
  fits := by decide +kernel

/-- The speaker, as device 1. -/
def speakerDevice (bytesPerPacket : UInt8) : AaudioDevContent where
  devId := 1
  mem := zeroMemory
  uid := .replied speakerUidReply
  inLatency := ⟨.timedOut, zeroMemory⟩
  outLatency := ⟨.timedOut, zeroMemory⟩
  inputStreams := .replied noInputStreamsReply
  outputStreams := .replied outputStreamReply
  stream _ _ :=
    ⟨⟨.replied (speakerFormatReply bytesPerPacket), zeroMemory⟩, ⟨.timedOut, zeroMemory⟩⟩
  sndPcmNew := 0

/-- The `BufferStruct` with a buffer for the speaker, if it has this number of devices. -/
def speakerBs (numDevices : UInt8) : AaudioBsContent where
  gprVersion := 3
  gprSig := AAUDIO_SIG
  bs :=
    { signature := AAUDIO_SIG
      numDevices
      devices := .replicate 20 ⟨.ofFn fun i => speakerUid.getD i 0, 0, 1,
        .replicate 5 ⟨0, .replicate 100 ⟨0, 0⟩⟩, .replicate 5 ⟨1, .replicate 100 ⟨0, 0x1000⟩⟩⟩ }
  regMemBs := 0
  regMemBsDma := 0
  kmallocArray _ _ _ := true

def speakerProbe (bytesPerPacket numDevices : UInt8) : AaudioProbeContent where
  setup := 0
  alive := 0
  remoteAlive := true
  deviceList := 0
  devs := [speakerDevice bytesPerPacket]
  remoteAccess := 0
  bs := speakerBs numDevices
  sndCardRegister := 0

/-- The subdevices after the probe, if it succeeds. -/
def probedList (p : AaudioProbeContent) : List AaudioSubdevice :=
  match aaudioProbe p with
  | .ok (_, list) => list
  | .error _ => []

def probedStatus (p : AaudioProbeContent) : Option Int :=
  match aaudioProbe p with
  | .ok (status, _) => some status
  | .error _ => none

theorem aaudioProbe_of_status {p : AaudioProbeContent} (h : probedStatus p = some 0) :
    aaudioProbe p = .ok (0, probedList p) := by
  unfold probedStatus at h
  unfold probedList
  split at h
  · next status list heq =>
    rw [heq]
    obtain rfl := Option.some.inj h
    rfl
  · cases h

theorem returns_iff_isOk {ε α : Type} {m : Except ε α} : Returns m ↔ m.isOk = true := by
  cases m with
  | error e => exact iff_of_false nofun nofun
  | ok a => exact iff_of_true (returns_ok a) rfl

instance (sdev : AaudioSubdevice) : Decidable sdev.Divided :=
  decidable_of_iff ((∃ hw ∈ (sdev.stream .input).alsaHwDesc, hw.periods = none) ∨
    ∃ hw ∈ (sdev.stream .output).alsaHwDesc, hw.periods = none) <| by
    constructor
    · rintro (⟨hw, hsome, hnone⟩ | ⟨hw, hsome, hnone⟩)
      · exact ⟨.input, hw, hsome, hnone⟩
      · exact ⟨.output, hw, hsome, hnone⟩
    · rintro ⟨_ | _, hw, hsome, hnone⟩
      · exact .inl ⟨hw, hsome, hnone⟩
      · exact .inr ⟨hw, hsome, hnone⟩

/-- The speaker is opened, and its timestamps are handled. -/
theorem card_of_a_speaker :
    (∀ call ∈ [CardCall.pcmOpen 0, .updateTimestamp 5 1, .pcmOpened 0 7],
      (speakerProbe 8 1).Allows call) ∧ (speakerProbe 8 1).PacketsFit :=
  (card_safe_iff _ _ (aaudioProbe_of_status (by decide +kernel)) _).mp
    ⟨returns_iff_isOk.mpr (by decide +kernel), by decide +kernel⟩

/-- A timestamp for device 2, which there is not. -/
theorem card_of_an_unknown_device :
    ¬∀ p list, aaudioProbe p = .ok (0, list) → ∀ calls : List CardCall,
      Returns (calls.foldlM AaudioCard.call (.registered list)) ∧
        ∀ sdev ∈ list, ¬sdev.Divided := by
  intro h
  have hreturns := (h (speakerProbe 8 1) _ (aaudioProbe_of_status (by decide +kernel))
    [.updateTimestamp 5 2]).1
  revert hreturns
  rw [returns_iff_isOk]
  decide +kernel

/-- Without a buffer in the `BufferStruct` the speaker has a PCM that cannot be opened. -/
example :
    ((AaudioCard.registered (probedList (speakerProbe 8 0))).call (.pcmOpen 0)).isOk = false := by
  decide +kernel

/-- Packets of no bytes. -/
example : ∃ sdev ∈ probedList (speakerProbe 0 1), sdev.Divided := by decide +kernel

end BceDriver
