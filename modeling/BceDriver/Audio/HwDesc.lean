import BceDriver.Audio.InitBounds

/-!
# The hardware descriptions of the streams

`alsa_hw_desc` of a stream is set in `aaudio_init_bs_stream`, long after the PCM of its
subdevice was created in `aaudio_init_dev`, and only if a device of the `BufferStruct`
is found for the subdevice and has a buffer for the stream.

- `aaudioSubdevice`, `keptDevices`: the subdevices as they are before their PCMs.
- `aaudioInitDevs_made`: which of them have a PCM then.
- `aaudioInitBs_described`: which streams have a description in the end, and what it says.
-/

namespace BceDriver

/-! ## Subdevices and their PCMs -/

/-- The part of `aaudio_init_dev` between the UID and the PCM; `none` if it fails. -/
def aaudioFillSubdev (d : AaudioDevContent) (buf : AaudioMsg) (uid : Vector UInt8 129) :
    Except AaudioArray (Option AaudioSubdevice) := do
  let inLatency ← aaudioQueryVal d.inLatency 4 0
  let outLatency ← aaudioQueryVal d.outLatency 4 0
  let sdev := { AaudioSubdevice.zero with devId := d.devId, uid, inLatency, outLatency }
  match aaudioCmdGetInputStreamList d.inputStreams buf with
  | (none, _) => return none
  | (some l, buf) =>
    let sdev ← aaudioInitStreams .input buf l (d.stream .input) sdev
    match aaudioCmdGetOutputStreamList d.outputStreams buf with
    | (none, _) => return none
    | (some l, buf) => return some (← aaudioInitStreams .output buf l (d.stream .output) sdev)

/-- The subdevice `aaudio_init_dev` makes for a device, as it is before its PCM. -/
def aaudioSubdevice (d : AaudioDevContent) : Except AaudioArray (Option AaudioSubdevice) :=
  match aaudioCmdGetProperty d.uid (aaudioReplyAlloc d.mem) with
  | (none, _) => .ok none
  | (some r, buf) =>
    if AAUDIO_DEVICE_MAX_UID_LEN < r.dataSize then .ok none
    else do
      let uid ← aaudioStoreUid buf r
      if ← aaudioEnabledUid uid then aaudioFillSubdev d buf uid else return none

/-- The end of `aaudio_init_dev`, with the subdevice if there is one. -/
def AaudioSubdevices.add (a : AaudioSubdevices) (sndPcmNew : Int) :
    Option AaudioSubdevice → AaudioSubdevices
  | none => a
  | some sdev =>
    let pcm := if sdev.isPcm then aaudioCreatePcm sndPcmNew sdev a.nextAlsaId
      else (sdev, a.nextAlsaId)
    { list := a.list ++ [pcm.1], nextAlsaId := pcm.2 }

section Split

variable (a : AaudioSubdevices) (d : AaudioDevContent) (buf : AaudioMsg)

theorem aaudioInitSubdev_eq (uid : Vector UInt8 129) :
    aaudioInitSubdev a d buf uid = return a.add d.sndPcmNew (← aaudioFillSubdev d buf uid) := by
  unfold aaudioInitSubdev aaudioFillSubdev
  simp only [bind_assoc]
  refine congrArg _ (funext fun inLatency => congrArg _ (funext fun outLatency => ?_))
  generalize aaudioCmdGetInputStreamList d.inputStreams buf = l
  obtain ⟨_ | l, buf⟩ := l
  · rfl
  · simp only [bind_assoc]
    refine congrArg _ (funext fun sdev => ?_)
    generalize aaudioCmdGetOutputStreamList d.outputStreams buf = l
    obtain ⟨_ | l, buf⟩ := l
    · rfl
    · simp only [bind_assoc]
      rfl

theorem aaudioInitDev_eq :
    aaudioInitDev a d = return a.add d.sndPcmNew (← aaudioSubdevice d) := by
  unfold aaudioInitDev aaudioSubdevice
  generalize aaudioCmdGetProperty d.uid (aaudioReplyAlloc d.mem) = r
  obtain ⟨_ | r, buf⟩ := r
  · rfl
  · by_cases hlong : AAUDIO_DEVICE_MAX_UID_LEN < r.dataSize
    · simp only [if_pos hlong]
      rfl
    · simp only [if_neg hlong, bind_assoc]
      refine congrArg _ (funext fun uid => congrArg _ (funext fun enabled => ?_))
      cases enabled with
      | true => exact aaudioInitSubdev_eq a d buf uid
      | false => rfl

end Split

/-! ## Streams of subdevices -/

/-- The one stream there is room for in a direction. -/
def AaudioSubdevice.stream (sdev : AaudioSubdevice) (dir : AaudioDir) : AaudioStream :=
  (sdev.streams dir)[0]

/-- `aaudio_init_bs` and `aaudio_create_pcm` leave this alone. -/
structure SameDevice (sdev sdev' : AaudioSubdevice) : Prop where
  devId : sdev'.devId = sdev.devId
  uid : sdev'.uid = sdev.uid
  streamCnt : ∀ dir, sdev'.streamCnt dir = sdev.streamCnt dir
  desc : ∀ dir, (sdev'.stream dir).desc = (sdev.stream dir).desc

section Streams

variable {sdev sdev' sdev'' : AaudioSubdevice} {dir dir' : AaudioDir} {i : Nat}

theorem SameDevice.refl (sdev : AaudioSubdevice) : SameDevice sdev sdev :=
  ⟨rfl, rfl, fun _ => rfl, fun _ => rfl⟩

theorem SameDevice.trans (h : SameDevice sdev sdev') (h' : SameDevice sdev' sdev'') :
    SameDevice sdev sdev'' :=
  ⟨h'.devId.trans h.devId, h'.uid.trans h.uid,
    fun dir => (h'.streamCnt dir).trans (h.streamCnt dir),
    fun dir => (h'.desc dir).trans (h.desc dir)⟩

theorem stream_setStreams (sdev : AaudioSubdevice) (streams : Vector AaudioStream 1)
    (dir dir' : AaudioDir) :
    (sdev.setStreams streams dir).stream dir' =
      if dir' = dir then streams[0] else sdev.stream dir' := by
  cases dir <;> cases dir' <;> rfl

@[simp] theorem stream_setStreamCnt (sdev : AaudioSubdevice) (cnt : Nat) (dir dir' : AaudioDir) :
    (sdev.setStreamCnt cnt dir).stream dir' = sdev.stream dir' := by
  cases dir <;> cases dir' <;> rfl

/-- An access to the streams of a subdevice is to that one. -/
theorem get_streams {strm : AaudioStream}
    (h : Table.get dir.array (sdev.streams dir) i = .ok strm) : i = 0 ∧ strm = sdev.stream dir := by
  have hget := Table.get_eq_ok_iff.mp h
  obtain ⟨hi, heq⟩ := Vector.getElem?_eq_some_iff.mp hget
  obtain rfl : i = 0 := by omega
  exact ⟨rfl, heq.symm⟩

theorem set_streams {strm : AaudioStream} {streams : Vector AaudioStream 1}
    (h : Table.set dir.array (sdev.streams dir) i strm = .ok streams) : streams[0] = strm := by
  obtain ⟨hi, rfl⟩ := Table.set_eq_ok_iff.mp h
  obtain rfl : i = 0 := by omega
  exact Vector.getElem_set_self _

/-- A subdevice while its streams are asked about: there is no PCM, and nothing is known of
the buffers. -/
structure AaudioSubdevice.Unplayed (sdev : AaudioSubdevice) (devId : Nat) : Prop where
  devId : sdev.devId = devId
  pcm : sdev.pcm = false
  hwDesc : ∀ dir, (sdev.stream dir).alsaHwDesc = none

theorem aaudioInitStreamInfo_hwDesc {q : AaudioStreamContent} {strm strm' : AaudioStream}
    (h : aaudioInitStreamInfo q strm = .ok strm') : strm'.alsaHwDesc = strm.alsaHwDesc := by
  obtain ⟨desc, -, h⟩ := Except.bind_eq_ok_iff.mp h
  obtain ⟨latency, -, h⟩ := Except.bind_eq_ok_iff.mp h
  cases h
  rfl

theorem aaudioInitStreams_unplayed {buf : AaudioMsg} {l : AaudioListResponse}
    {content : Nat → AaudioStreamContent} {devId : Nat} (h : sdev.Unplayed devId)
    (hok : aaudioInitStreams dir buf l content sdev = .ok sdev') : sdev'.Unplayed devId := by
  have hcnt : ∀ cnt, (sdev.setStreamCnt cnt dir).Unplayed devId := by
    intro cnt
    obtain ⟨hdevId, hpcm, hhw⟩ := h
    refine ⟨?_, ?_, fun dir' => by rw [stream_setStreamCnt, hhw dir']⟩
    · rw [← hdevId]
      cases dir <;> rfl
    · rw [← hpcm]
      cases dir <;> rfl
  refine foldlM_keeps (P := fun s : AaudioSubdevice => s.Unplayed devId) ?_ (hcnt _) hok
  rintro s i s' ⟨hdevId, hpcm, hhw⟩ hstep
  obtain ⟨id, -, hstep⟩ := Except.bind_eq_ok_iff.mp hstep
  obtain ⟨strm, hget, hstep⟩ := Except.bind_eq_ok_iff.mp hstep
  obtain ⟨strm', hinfo, hstep⟩ := Except.bind_eq_ok_iff.mp hstep
  obtain ⟨streams, hset, hstep⟩ := Except.bind_eq_ok_iff.mp hstep
  cases hstep
  have hstrm : strm'.alsaHwDesc = none := by
    rw [aaudioInitStreamInfo_hwDesc hinfo, (get_streams hget).2]
    exact hhw dir
  refine ⟨?_, ?_, fun dir' => ?_⟩
  · rw [← hdevId]
    cases dir <;> rfl
  · rw [← hpcm]
    cases dir <;> rfl
  · show ((s.setStreams streams dir).stream dir').alsaHwDesc = none
    rw [stream_setStreams]
    split
    · rw [set_streams hset, hstrm]
    · exact hhw dir'

end Streams

/-! ## Which subdevices have a PCM -/

/-- `aaudio_create_pcm` sets `pcm`. -/
def AaudioSubdevice.Playable (sdev : AaudioSubdevice) (sndPcmNew : Int) : Prop :=
  sdev.isPcm = true ∧ sdev.outStreamCnt ≠ 0 ∧ 0 ≤ sndPcmNew

instance (sdev : AaudioSubdevice) (sndPcmNew : Int) : Decidable (sdev.Playable sndPcmNew) :=
  inferInstanceAs (Decidable (_ ∧ _ ∧ _))

/-- The devices `aaudio_init_dev` makes subdevices of, with the subdevices as they are
before their PCMs. -/
def keptDevices (devs : List AaudioDevContent) : List (AaudioDevContent × AaudioSubdevice) :=
  devs.filterMap fun d =>
    match aaudioSubdevice d with
    | .ok (some sdev) => some (d, sdev)
    | _ => none

/-- The subdevice on the list that `aaudio_init_dev` has made of a device. -/
structure Made (p : AaudioDevContent × AaudioSubdevice) (sdev : AaudioSubdevice) : Prop where
  same : SameDevice p.2 sdev
  devId : sdev.devId = p.1.devId
  pcm : sdev.pcm = true ↔ p.2.Playable p.1.sndPcmNew
  hwDesc : ∀ dir, (sdev.stream dir).alsaHwDesc = none

section Devices

variable {a a' : AaudioSubdevices} {d : AaudioDevContent} {sdev : AaudioSubdevice}
  {devs : List AaudioDevContent}

theorem aaudioSubdevice_unplayed (h : aaudioSubdevice d = .ok (some sdev)) :
    sdev.Unplayed d.devId := by
  unfold aaudioSubdevice at h
  split at h
  · cases h
  · split at h
    · cases h
    · obtain ⟨uid, -, h⟩ := Except.bind_eq_ok_iff.mp h
      obtain ⟨enabled, -, h⟩ := Except.bind_eq_ok_iff.mp h
      split at h
      · obtain ⟨inLatency, -, h⟩ := Except.bind_eq_ok_iff.mp h
        obtain ⟨outLatency, -, h⟩ := Except.bind_eq_ok_iff.mp h
        split at h
        · cases h
        · obtain ⟨sdev₁, hin, h⟩ := Except.bind_eq_ok_iff.mp h
          split at h
          · cases h
          · obtain ⟨sdev₂, hout, h⟩ := Except.bind_eq_ok_iff.mp h
            cases h
            refine aaudioInitStreams_unplayed (aaudioInitStreams_unplayed ?_ hin) hout
            exact ⟨rfl, rfl, fun dir => by cases dir <;> rfl⟩
      · cases h

/-- The PCM of a subdevice that is added. -/
theorem made_of_add (h : sdev.Unplayed d.devId) (next : Nat) :
    Made (d, sdev) (if sdev.isPcm then aaudioCreatePcm d.sndPcmNew sdev next
      else (sdev, next)).1 := by
  obtain ⟨hdevId, hpcm, hhw⟩ := h
  have hno : ∀ {P : Prop}, ¬P → (sdev.pcm = true ↔ P) := by
    intro P hP
    rw [hpcm]
    exact ⟨nofun, fun h => absurd h hP⟩
  split
  · next hisPcm =>
    unfold aaudioCreatePcm
    split
    · next hout =>
      have hcnt : sdev.outStreamCnt = 0 := hout.resolve_left (not_not.mpr hisPcm)
      exact ⟨.refl _, hdevId, hno fun h => h.2.1 hcnt, hhw⟩
    · next hout =>
      split
      · next hnew =>
        refine ⟨⟨rfl, rfl, fun dir => by cases dir <;> rfl, fun dir => by cases dir <;> rfl⟩,
          hdevId, hno fun h => absurd h.2.2 (Int.not_le.mpr hnew), fun dir => ?_⟩
        rw [← hhw dir]
        cases dir <;> rfl
      · next hnew =>
        refine ⟨⟨rfl, rfl, fun dir => by cases dir <;> rfl, fun dir => by cases dir <;> rfl⟩,
          hdevId, ?_, fun dir => ?_⟩
        · exact ⟨fun _ => ⟨hisPcm, fun h => hout (.inr h), Int.not_lt.mp hnew⟩, fun _ => rfl⟩
        · rw [← hhw dir]
          cases dir <;> rfl
  · next hisPcm => exact ⟨.refl _, hdevId, hno fun h => hisPcm h.1, hhw⟩

theorem aaudioInitDev_made (hok : aaudioInitDev a d = .ok a')
    {kept : List (AaudioDevContent × AaudioSubdevice)} (hmade : List.Forall₂ Made kept a.list) :
    List.Forall₂ Made (kept ++ keptDevices [d]) a'.list := by
  rw [aaudioInitDev_eq] at hok
  obtain ⟨made, hsub, hok⟩ := Except.bind_eq_ok_iff.mp hok
  cases hok
  cases made with
  | none =>
    have hkept : keptDevices [d] = [] := by simp [keptDevices, hsub]
    rw [hkept, List.append_nil]
    exact hmade
  | some sdev =>
    have hkept : keptDevices [d] = [(d, sdev)] := by simp [keptDevices, hsub]
    rw [hkept]
    exact List.rel_append hmade (.cons (made_of_add (aaudioSubdevice_unplayed hsub) _) .nil)

/-- **The PCMs.** The subdevices after `aaudio_init_cmd` are those made of the devices, in
their order, and those of them have a PCM that can play. -/
theorem aaudioInitDevs_made (hok : devs.foldlM aaudioInitDev ⟨[], 0⟩ = .ok a) :
    List.Forall₂ Made (keptDevices devs) a.list := by
  have hloop : ∀ (kept : List (AaudioDevContent × AaudioSubdevice)) (a₀ : AaudioSubdevices),
      List.Forall₂ Made kept a₀.list → devs.foldlM aaudioInitDev a₀ = .ok a →
      List.Forall₂ Made (kept ++ keptDevices devs) a.list := by
    clear hok
    induction devs with
    | nil =>
      intro kept a₀ hmade hok
      cases hok
      rw [keptDevices, List.filterMap_nil, List.append_nil]
      exact hmade
    | cons d devs ih =>
      intro kept a₀ hmade hok
      rw [List.foldlM_cons] at hok
      obtain ⟨a₁, hdev, hok⟩ := Except.bind_eq_ok_iff.mp hok
      have hkept : keptDevices (d :: devs) = keptDevices [d] ++ keptDevices devs :=
        List.filterMap_append (l := [d])
      rw [hkept, ← List.append_assoc]
      exact ih _ a₁ (aaudioInitDev_made hdev hmade) hok
  exact hloop [] ⟨[], 0⟩ .nil hok

end Devices

/-! ## Which streams have a description -/

/-- What `aaudio_init_bs_stream` does to a stream it finds a buffer for, or not. -/
structure BsStream (found : Prop) (strm strm' : AaudioStream) : Prop where
  desc : strm'.desc = strm.desc
  set : found → ∃ size, strm'.alsaHwDesc = aaudioCreateHwInfo strm.desc size
  kept : ¬found → strm'.alsaHwDesc = strm.alsaHwDesc

section BsStream

variable {p q : Prop} {strm strm' strm'' : AaudioStream}

theorem BsStream.refl (strm : AaudioStream) : BsStream False strm strm :=
  ⟨rfl, False.elim, fun _ => rfl⟩

theorem BsStream.congr (h : BsStream p strm strm') (hpq : p ↔ q) : BsStream q strm strm' :=
  ⟨h.desc, fun hq => h.set (hpq.mpr hq), fun hq => h.kept fun hp => hq (hpq.mp hp)⟩

theorem BsStream.trans (h : BsStream p strm strm') (h' : BsStream q strm' strm'') :
    BsStream (p ∨ q) strm strm'' := by
  refine ⟨h'.desc.trans h.desc, fun hor => ?_, fun hor => ?_⟩
  · by_cases hq : q
    · obtain ⟨size, hset⟩ := h'.set hq
      exact ⟨size, by rw [hset, h.desc]⟩
    · obtain ⟨size, hset⟩ := h.set (hor.resolve_right hq)
      exact ⟨size, (h'.kept hq).trans hset⟩
  · rw [not_or] at hor
    exact (h'.kept hor.2).trans (h.kept hor.1)

end BsStream

/-- Device `i` of the `BufferStruct` has a buffer for the stream of the subdevice. -/
def AaudioBsContent.Gives (c : AaudioBsContent) (i : Nat) (dev : AaudioBufferStructDevice)
    (sdev : AaudioSubdevice) (dir : AaudioDir) : Prop :=
  0 < (dev.numStreams dir).toNat ∧ 0 < sdev.streamCnt dir ∧ c.kmallocArray i dir 0 = true ∧
    0 < (dev.streams dir)[0].numBuffers.toNat

/-- What the loop over the streams in a direction does. -/
structure BsStreams (found : Prop) (dir : AaudioDir) (sdev sdev' : AaudioSubdevice) : Prop where
  same : SameDevice sdev sdev'
  pcm : sdev'.pcm = sdev.pcm
  other : ∀ dir', dir' ≠ dir → sdev'.stream dir' = sdev.stream dir'
  stream : BsStream found (sdev.stream dir) (sdev'.stream dir)

theorem BsStreams.congr {p q : Prop} {dir : AaudioDir} {sdev sdev' : AaudioSubdevice}
    (h : BsStreams p dir sdev sdev') (hpq : p ↔ q) : BsStreams q dir sdev sdev' :=
  ⟨h.same, h.pcm, h.other, h.stream.congr hpq⟩

section Bs

variable {c : AaudioBsContent} {list list' : List AaudioSubdevice} {dir : AaudioDir}
variable {dev : AaudioBufferStructDevice} {sdev sdev' : AaudioSubdevice} {i : Nat}

theorem aaudioInitBsStream_spec {allocated : Bool} {strm strm' : AaudioStream}
    {bs : AaudioBufferStructStream} (hok : aaudioInitBsStream c allocated strm bs = .ok strm') :
    BsStream (allocated = true ∧ 0 < bs.numBuffers.toNat) strm strm' := by
  unfold aaudioInitBsStream at hok
  have hcnt : (if AAUDIO_DEIVCE_MAX_BUFFER_COUNT < bs.numBuffers.toNat then
      AAUDIO_DEIVCE_MAX_BUFFER_COUNT else bs.numBuffers.toNat) = 1 ↔ 0 < bs.numBuffers.toNat := by
    have hmax : AAUDIO_DEIVCE_MAX_BUFFER_COUNT = 1 := rfl
    split <;> omega
  generalize (if AAUDIO_DEIVCE_MAX_BUFFER_COUNT < bs.numBuffers.toNat then
      AAUDIO_DEIVCE_MAX_BUFFER_COUNT else bs.numBuffers.toNat) = cnt at hcnt hok
  rw [← hcnt]
  cases allocated with
  | false =>
    cases hok
    exact ⟨rfl, fun h => absurd h.1 Bool.false_ne_true, fun _ => rfl⟩
  | true =>
    simp only [Bool.not_true, Bool.false_eq_true, if_false] at hok
    obtain ⟨buffers, -, hok⟩ := Except.bind_eq_ok_iff.mp hok
    split at hok
    · next hone =>
      obtain ⟨b, -, hok⟩ := Except.bind_eq_ok_iff.mp hok
      cases hok
      exact ⟨rfl, fun _ => ⟨b.size, rfl⟩, fun h => absurd ⟨rfl, hone⟩ h⟩
    · next hone =>
      cases hok
      exact ⟨rfl, fun h => absurd h.2 hone, fun _ => rfl⟩

theorem aaudioInitBsStreams_spec (hcnt : sdev.streamCnt dir ≤ 1)
    (hok : aaudioInitBsStreams c i dir dev sdev = .ok sdev') :
    BsStreams (c.Gives i dev sdev dir) dir sdev sdev' := by
  refine foldlM_range (P := fun n s => BsStreams (0 < n ∧ 0 < sdev.streamCnt dir ∧
    c.kmallocArray i dir 0 = true ∧ 0 < (dev.streams dir)[0].numBuffers.toNat) dir sdev s)
    ?_ ⟨.refl _, rfl, fun _ _ => rfl, (BsStream.refl _).congr (by simp)⟩ hok
  rintro s j s' - ⟨hsame, hpcm, hother, hstream⟩ hstep
  obtain ⟨bs, hbs, hstep⟩ := Except.bind_eq_ok_iff.mp hstep
  rw [hsame.streamCnt] at hstep
  split at hstep
  · next hj =>
    obtain ⟨strm, hget, hstep⟩ := Except.bind_eq_ok_iff.mp hstep
    obtain ⟨strm', hinit, hstep⟩ := Except.bind_eq_ok_iff.mp hstep
    obtain ⟨streams, hset, hstep⟩ := Except.bind_eq_ok_iff.mp hstep
    cases hstep
    obtain ⟨rfl, rfl⟩ := get_streams hget
    obtain ⟨_, rfl⟩ := Vector.getElem?_eq_some_iff.mp (Table.get_eq_ok_iff.mp hbs)
    have hbsStream := aaudioInitBsStream_spec hinit
    rw [← set_streams hset] at hbsStream
    have hnext := (hstream.trans hbsStream).congr
      (q := 0 < 0 + 1 ∧ 0 < sdev.streamCnt dir ∧ c.kmallocArray i dir 0 = true ∧
        0 < (dev.streams dir)[0].numBuffers.toNat) (by simp [hj])
    refine ⟨⟨?_, ?_, fun dir' => ?_, fun dir' => ?_⟩, ?_, fun dir' hdir => ?_, ?_⟩
    · rw [← hsame.devId]
      cases dir <;> rfl
    · rw [← hsame.uid]
      cases dir <;> rfl
    · rw [← hsame.streamCnt]
      cases dir <;> cases dir' <;> rfl
    · rw [stream_setStreams]
      split
      · next heq =>
        subst heq
        exact hnext.desc
      · exact hsame.desc dir'
    · rw [← hpcm]
      cases dir <;> rfl
    · rw [stream_setStreams, if_neg hdir]
      exact hother dir' hdir
    · rw [stream_setStreams, if_pos rfl]
      exact hnext
  · next hj =>
    cases hstep
    refine ⟨hsame, hpcm, hother, hstream.congr ?_⟩
    constructor
    · exact fun h => ⟨j.succ_pos, h.2⟩
    · exact fun h => ⟨by omega, h.2⟩

/-- What a device of the `BufferStruct` does to the subdevice it is found for, or what all
of them do. -/
structure BsSubdevice (found : AaudioDir → Prop) (sdev sdev' : AaudioSubdevice) : Prop where
  same : SameDevice sdev sdev'
  pcm : sdev'.pcm = sdev.pcm
  stream : ∀ dir, BsStream (found dir) (sdev.stream dir) (sdev'.stream dir)

theorem BsSubdevice.of_streams {found : AaudioDir → Prop} {sdev'' : AaudioSubdevice}
    (hin : BsStreams (found .input) .input sdev sdev')
    (hout : BsStreams (found .output) .output sdev' sdev'') : BsSubdevice found sdev sdev'' where
  same := hin.same.trans hout.same
  pcm := hout.pcm.trans hin.pcm
  stream
    | .input => hout.other .input nofun ▸ hin.stream
    | .output => hin.other .output nofun ▸ hout.stream

theorem BsSubdevice.trans {p q r : AaudioDir → Prop} {sdev'' : AaudioSubdevice}
    (h : BsSubdevice p sdev sdev') (h' : BsSubdevice q sdev' sdev'')
    (hr : ∀ dir, p dir ∨ q dir ↔ r dir) : BsSubdevice r sdev sdev'' where
  same := h.same.trans h'.same
  pcm := h'.pcm.trans h.pcm
  stream dir := ((h.stream dir).trans (h'.stream dir)).congr (hr dir)

/-- One that nothing is found for. -/
theorem BsSubdevice.refl {found : AaudioDir → Prop} (hfound : ∀ dir, ¬found dir)
    (sdev : AaudioSubdevice) : BsSubdevice found sdev sdev where
  same := .refl sdev
  pcm := rfl
  stream dir := (BsStream.refl _).congr (iff_of_false id (hfound dir))

theorem BsSubdevice.congr {p q : AaudioDir → Prop} (h : BsSubdevice p sdev sdev')
    (hq : ∀ dir, p dir ↔ q dir) : BsSubdevice q sdev sdev' where
  same := h.same
  pcm := h.pcm
  stream dir := (h.stream dir).congr (hq dir)

/-- The index of the subdevice `aaudio_find_dev_by_uid` finds. -/
def aaudioDevIndex (name : List UInt8) (list : List AaudioSubdevice) :
    Except AaudioArray (Option Nat) := do
  return (← aaudioFindDevByUid name list).map Prod.fst

theorem aaudioDevIndex_cons (name : List UInt8) (sdev : AaudioSubdevice)
    (list : List AaudioSubdevice) :
    aaudioDevIndex name (sdev :: list) = do
      if ← aaudioStrcmp .name name sdev.uid.toList then return some 0
      return (← aaudioDevIndex name list).map (· + 1) := by
  unfold aaudioDevIndex
  rw [aaudioFindDevByUid]
  cases aaudioStrcmp .name name sdev.uid.toList with
  | error e => rfl
  | ok eq =>
    cases eq with
    | true => rfl
    | false =>
      show (aaudioFindDevByUid name list >>= _) >>= _ = (aaudioFindDevByUid name list >>= _) >>= _
      cases aaudioFindDevByUid name list with
      | error e => rfl
      | ok found =>
        cases found with
        | none | some => rfl

theorem aaudioDevIndex_congr (name : List UInt8)
    (h : list.map AaudioSubdevice.uid = list'.map AaudioSubdevice.uid) :
    aaudioDevIndex name list = aaudioDevIndex name list' := by
  induction list generalizing list' with
  | nil =>
    obtain rfl := List.map_eq_nil_iff.mp h.symm
    rfl
  | cons sdev list ih =>
    obtain ⟨sdev', list', rfl, huid, hlist⟩ := List.map_eq_cons_iff.mp h.symm
    rw [aaudioDevIndex_cons, aaudioDevIndex_cons, huid, ih hlist.symm]

/-- Device `i` of the `BufferStruct` is found for the `k`-th subdevice, and has a buffer for
its stream. -/
def AaudioBsContent.Finds (c : AaudioBsContent) (list : List AaudioSubdevice) (k : Nat)
    (dir : AaudioDir) (i : Nat) : Prop :=
  ∃ dev sdev, c.bs.devices[i]? = some dev ∧ aaudioDevIndex dev.name.toList list = .ok (some k) ∧
    list[k]? = some sdev ∧ c.Gives i dev sdev dir

/-- The subdevices of two lists differ in what `aaudio_init_bs` and `aaudio_create_pcm` set. -/
structure SameDevices (list list' : List AaudioSubdevice) : Prop where
  length : list'.length = list.length
  same : ∀ (k : Nat) (sdev sdev' : AaudioSubdevice), list[k]? = some sdev →
    list'[k]? = some sdev' → SameDevice sdev sdev'

/-- The list before and after some devices of the `BufferStruct`. -/
structure BsSubdevices (found : Nat → AaudioDir → Prop) (list list' : List AaudioSubdevice) :
    Prop where
  length : list'.length = list.length
  subdevice : ∀ k sdev sdev', list[k]? = some sdev → list'[k]? = some sdev' →
    BsSubdevice (found k) sdev sdev'

theorem getElem?_of_length {α β : Type} {l : List α} {l' : List β} (hlen : l'.length = l.length)
    {k : Nat} {a : α} (hget : l[k]? = some a) : ∃ b, l'[k]? = some b := by
  obtain ⟨hk, -⟩ := List.getElem?_eq_some_iff.mp hget
  exact ⟨_, List.getElem?_eq_getElem (hlen ▸ hk)⟩

section Subdevices

variable {p q r : Nat → AaudioDir → Prop} {list'' : List AaudioSubdevice} {k : Nat}

theorem SameDevices.uids (h : SameDevices list list') :
    list'.map AaudioSubdevice.uid = list.map AaudioSubdevice.uid := by
  refine List.ext_getElem? fun k => ?_
  rw [List.getElem?_map, List.getElem?_map]
  cases hget : list[k]? with
  | none =>
    have hk := List.getElem?_eq_none_iff.mp hget
    rw [List.getElem?_eq_none (h.length ▸ hk)]
  | some sdev =>
    obtain ⟨sdev', hget'⟩ := getElem?_of_length h.length hget
    rw [hget', Option.map_some, Option.map_some, (h.same k sdev sdev' hget hget').uid]

theorem AaudioBsContent.Gives.congr (hcnt : sdev'.streamCnt dir = sdev.streamCnt dir) :
    c.Gives i dev sdev' dir ↔ c.Gives i dev sdev dir := by
  unfold Gives
  rw [hcnt]

/-- What is found depends on what stays the same. -/
theorem SameDevices.finds (h : SameDevices list list') :
    c.Finds list' k dir i ↔ c.Finds list k dir i := by
  unfold AaudioBsContent.Finds
  constructor
  · rintro ⟨dev, sdev', hdev, hindex, hget', hgives⟩
    obtain ⟨sdev, hget⟩ := getElem?_of_length h.length.symm hget'
    have hcnt := (h.same k sdev sdev' hget hget').streamCnt dir
    rw [aaudioDevIndex_congr _ h.uids] at hindex
    exact ⟨dev, sdev, hdev, hindex, hget, (AaudioBsContent.Gives.congr hcnt).mp hgives⟩
  · rintro ⟨dev, sdev, hdev, hindex, hget, hgives⟩
    obtain ⟨sdev', hget'⟩ := getElem?_of_length h.length hget
    have hcnt := (h.same k sdev sdev' hget hget').streamCnt dir
    rw [← aaudioDevIndex_congr _ h.uids] at hindex
    exact ⟨dev, sdev', hdev, hindex, hget', (AaudioBsContent.Gives.congr hcnt).mpr hgives⟩

theorem BsSubdevices.same (h : BsSubdevices p list list') : SameDevices list list' :=
  ⟨h.length, fun k sdev sdev' hget hget' => (h.subdevice k sdev sdev' hget hget').same⟩

theorem BsSubdevices.trans (h : BsSubdevices p list list') (h' : BsSubdevices q list' list'')
    (hr : ∀ k dir, p k dir ∨ q k dir ↔ r k dir) : BsSubdevices r list list'' where
  length := h'.length.trans h.length
  subdevice k sdev sdev'' hget hget'' := by
    obtain ⟨sdev', hget'⟩ := getElem?_of_length h.length hget
    exact (h.subdevice k sdev sdev' hget hget').trans
      (h'.subdevice k sdev' sdev'' hget' hget'') (hr k)

theorem BsSubdevices.refl (hp : ∀ k dir, ¬p k dir) (list : List AaudioSubdevice) :
    BsSubdevices p list list where
  length := rfl
  subdevice k sdev sdev' hget hget' := by
    obtain rfl := Option.some.inj (hget.symm.trans hget')
    exact .refl (hp k) sdev

end Subdevices

/-- Device `i` is found for at most one subdevice, the one of its name. -/
theorem AaudioBsContent.finds_iff {found : Option Nat} (hdev : c.bs.devices[i]? = some dev)
    (hindex : aaudioDevIndex dev.name.toList list = .ok found) (k : Nat) (dir : AaudioDir) :
    c.Finds list k dir i ↔
      ∃ sdev, found = some k ∧ list[k]? = some sdev ∧ c.Gives i dev sdev dir := by
  constructor
  · rintro ⟨dev', sdev, hdev', hindex', hget, hgives⟩
    obtain rfl := Option.some.inj (hdev.symm.trans hdev')
    exact ⟨sdev, Except.ok.inj (hindex.symm.trans hindex'), hget, hgives⟩
  · rintro ⟨sdev, rfl, hget, hgives⟩
    exact ⟨dev, sdev, hdev, hindex, hget, hgives⟩

/-- The subdevice a device is found for takes its buffers, in both directions. -/
theorem aaudioInitBsDirs_spec {sdev₁ sdev₂ : AaudioSubdevice} (hsdev : sdev.Ok)
    (hin : aaudioInitBsStreams c i .input dev { sdev with bufId := i % 256 } = .ok sdev₁)
    (hout : aaudioInitBsStreams c i .output dev sdev₁ = .ok sdev₂) :
    BsSubdevice (c.Gives i dev sdev) sdev sdev₂ := by
  have hbufId : ∀ dir, ({ sdev with bufId := i % 256 } : AaudioSubdevice).streamCnt dir =
      sdev.streamCnt dir := fun dir => by cases dir <;> rfl
  have hbuf : BsSubdevice (fun _ => False) sdev { sdev with bufId := i % 256 } :=
    ⟨⟨rfl, rfl, hbufId, fun dir => by cases dir <;> rfl⟩, rfl,
      fun dir => by cases dir <;> exact .refl _⟩
  have hin := aaudioInitBsStreams_spec (hbufId .input ▸ hsdev.streamCnt .input) hin
  have hcnt := (hin.same.streamCnt .output).trans (hbufId .output)
  have hout := aaudioInitBsStreams_spec (hcnt ▸ hsdev.streamCnt .output) hout
  have hstreams : BsSubdevice (c.Gives i dev sdev) { sdev with bufId := i % 256 } sdev₂ :=
    .of_streams hin (hout.congr (AaudioBsContent.Gives.congr hcnt))
  exact hbuf.trans hstreams fun dir => by rw [false_or]

/-- One subdevice is changed, the one at `k`. -/
theorem BsSubdevices.of_set {found : Nat → AaudioDir → Prop} {k : Nat}
    (hget : list[k]? = some sdev) (hsub : BsSubdevice (found k) sdev sdev')
    (hother : ∀ k' dir, k' ≠ k → ¬found k' dir) : BsSubdevices found list (list.set k sdev') := by
  refine ⟨List.length_set, fun k' s s' hs hs' => ?_⟩
  by_cases hk : k' = k
  · subst hk
    obtain ⟨hlt, -⟩ := List.getElem?_eq_some_iff.mp hget
    rw [List.getElem?_set_self hlt] at hs'
    obtain rfl := Option.some.inj (hget.symm.trans hs)
    obtain rfl := Option.some.inj hs'
    exact hsub
  · rw [List.getElem?_set_ne (Ne.symm hk)] at hs'
    obtain rfl := Option.some.inj (hs.symm.trans hs')
    exact .refl (fun dir => hother k' dir hk) s

theorem aaudioInitBsDevice_spec (hall : ∀ sdev ∈ list, sdev.Ok)
    (hok : aaudioInitBsDevice c list i = .ok list') :
    BsSubdevices (fun k dir => c.Finds list k dir i) list list' := by
  unfold aaudioInitBsDevice at hok
  obtain ⟨dev, hdev, hok⟩ := Except.bind_eq_ok_iff.mp hok
  obtain ⟨found, hfound, hok⟩ := Except.bind_eq_ok_iff.mp hok
  obtain ⟨found', hfound', -, hat⟩ := aaudioFindDevByUid_ok hall dev
  obtain rfl : found' = found := Except.ok.inj (hfound'.symm.trans hfound)
  have hindex : aaudioDevIndex dev.name.toList list = .ok (found'.map Prod.fst) := by
    unfold aaudioDevIndex
    rw [hfound]
    rfl
  have hfinds := AaudioBsContent.finds_iff (Table.get_eq_ok_iff.mp hdev) hindex
  cases found' with
  | none =>
    cases hok
    refine .refl (fun k dir h => ?_) list
    obtain ⟨_, hk, -⟩ := (hfinds k dir).mp h
    cases hk
  | some found =>
    obtain ⟨k, sdev⟩ := found
    have hget : list[k]? = some sdev := hat k sdev rfl
    obtain ⟨sdev₁, hin, hok⟩ := Except.bind_eq_ok_iff.mp hok
    obtain ⟨sdev₂, hout, hok⟩ := Except.bind_eq_ok_iff.mp hok
    cases hok
    have hsub := aaudioInitBsDirs_spec (hall sdev (List.mem_of_getElem? hget)) hin hout
    refine .of_set hget (hsub.congr fun dir => ?_) fun k' dir hk h => ?_
    · rw [hfinds]
      constructor
      · exact fun h => ⟨sdev, rfl, hget, h⟩
      · rintro ⟨sdev', -, hget', h⟩
        exact Option.some.inj (hget'.symm.trans hget) ▸ h
    · obtain ⟨_, hk', -⟩ := (hfinds k' dir).mp h
      exact hk (Option.some.inj hk').symm

/-- **The descriptions.** What `aaudio_init_bs` leaves in the subdevices. -/
theorem aaudioInitBs_described (hall : ∀ sdev ∈ list, sdev.Ok)
    (hok : aaudioInitBs c list = .ok (0, list')) :
    BsSubdevices (fun k dir => ∃ i < c.bs.numDevices.toNat, c.Finds list k dir i) list list' := by
  unfold aaudioInitBs at hok
  split at hok
  · obtain ⟨l, hloop, hok⟩ := Except.bind_eq_ok_iff.mp hok
    cases hok
    have hboth := foldlM_range (P := fun n l => (∀ sdev ∈ l, sdev.Ok) ∧
      BsSubdevices (fun k dir => ∃ i < n, c.Finds list k dir i) list l) ?_
      ⟨hall, .refl (fun _ _ h => absurd h (by simp)) list⟩ hloop
    · exact hboth.2
    · rintro l n l' - ⟨hl, hsubs⟩ hstep
      refine ⟨(aaudioInitBsDevice_keeps hl hstep).1, ?_⟩
      refine hsubs.trans (aaudioInitBsDevice_spec hl hstep) fun k dir => ?_
      rw [hsubs.same.finds]
      constructor
      · rintro (⟨i, hi, hfinds⟩ | hfinds)
        · exact ⟨i, Nat.lt_succ_of_lt hi, hfinds⟩
        · exact ⟨n, n.lt_succ_self, hfinds⟩
      · rintro ⟨i, hi, hfinds⟩
        obtain hlt | rfl := Nat.lt_succ_iff_lt_or_eq.mp hi
        · exact .inl ⟨i, hlt, hfinds⟩
        · exact .inr hfinds
  · cases hok

end Bs

end BceDriver
