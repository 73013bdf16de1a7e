import BceDriver.Audio.Init

/-!
# The arrays of the audio devices

- `aaudioInitDev_returns_iff`: the zero behind a UID of 128 bytes is stored past the
  end of `uid`, and nothing else that a device answers leads out of an array.
- `aaudioInitBsDevice_returns_iff`: the counts of devices and streams in the
  `BufferStruct` are used as they are.
- `aaudio_init_in_bounds_iff`: the result.
-/

namespace BceDriver

/-! ## Programs -/

section Returns

variable {ε α β : Type} {m : Except ε α} {f : α → Except ε β}

theorem Returns.bind (h : Returns m) (hf : ∀ a, m = .ok a → Returns (f a)) : Returns (m >>= f) := by
  obtain ⟨a, ha⟩ := h
  exact returns_bind.mpr ⟨a, ha, hf a ha⟩

end Returns

/-! ## Reply buffers -/

/-- The buffer has all its memory. -/
def AaudioMsg.Allocated (buf : AaudioMsg) : Prop :=
  buf.data.length = AAUDIO_BCE_QUEUE_ELEMENT_SIZE ∧ buf.size ≤ AAUDIO_BCE_QUEUE_ELEMENT_SIZE

theorem aaudioReplyAlloc_allocated (mem : ReplyMemory) : (aaudioReplyAlloc mem).Allocated :=
  ⟨mem.property, Nat.le_refl _⟩

theorem AaudioMsg.Allocated.copy {buf : AaudioMsg} (h : buf.Allocated) (r : AaudioReply) :
    (aaudioCopy r.msg buf).Allocated := by
  obtain ⟨hlen, hsize⟩ := h
  have hmin : (aaudioCopy r.msg buf).size = min r.bytes.length buf.size := aaudioCopy_size _ _
  have hdata : (aaudioCopy r.msg buf).data =
      r.bytes.take (aaudioCopy r.msg buf).size ++ buf.data.drop (aaudioCopy r.msg buf).size := rfl
  refine ⟨?_, by omega⟩
  rw [hdata, List.length_append, List.length_take, List.length_drop]
  omega

theorem aaudioCmdRead_allocated {α : Type} {read : AaudioMsg → Option α} {e : AaudioExchange}
    {buf buf' : AaudioMsg} {a : Option α} (h : buf.Allocated)
    (hcmd : aaudioCmdRead read e buf = (a, buf')) : buf'.Allocated := by
  obtain ⟨-, rfl⟩ := Prod.ext_iff.mp hcmd
  cases e with
  | unsent | timedOut => exact h
  | replied r | late r => exact h.copy r

/-- A reader's result is one it gave on the buffer as the command left it. -/
theorem aaudioCmdRead_some {α : Type} {read : AaudioMsg → Option α} {e : AaudioExchange}
    {buf buf' : AaudioMsg} {a : α} (h : aaudioCmdRead read e buf = (some a, buf')) :
    read buf' = some a := by
  obtain ⟨hread, rfl⟩ := Prod.ext_iff.mp h
  simp only [aaudioCmdRead] at hread ⊢
  split at hread
  · exact hread
  · cases hread

theorem propertyResponse_data {buf : AaudioMsg} {r : AaudioPropertyResponse}
    (h : aaudioMsgReadGetPropertyResponse buf = some r) : r.data = 49 := by
  unfold aaudioMsgReadGetPropertyResponse aaudioReadStart at h
  split at h
  · cases h
    rfl
  · cases h

theorem listResponse_list {type : Nat} {buf : AaudioMsg} {l : AaudioListResponse}
    (h : aaudioMsgReadListResponse type buf = some l) : l.list = 29 := by
  unfold aaudioMsgReadListResponse aaudioReadStart at h
  split at h
  · cases h
    rfl
  · cases h

theorem returns_readBytes {buf : AaudioMsg} (h : buf.Allocated) {offset size : Nat}
    (hle : offset + size ≤ AAUDIO_BCE_QUEUE_ELEMENT_SIZE) :
    Returns (buf.readBytes offset size) := by
  unfold AaudioMsg.readBytes
  rw [if_pos (h.1 ▸ hle)]
  exact returns_ok _

/-- A primitive property of a few bytes is inside its reply. -/
theorem returns_primitiveProperty (q : AaudioQuery) {dataSize : Nat} (hsize : dataSize ≤ 128) :
    Returns (aaudioCmdGetPrimitiveProperty q dataSize) := by
  unfold aaudioCmdGetPrimitiveProperty
  split
  · next r reply hcmd =>
    have halloc : reply.Allocated :=
      aaudioCmdRead_allocated (aaudioReplyAlloc_allocated q.mem) hcmd
    have hdata := propertyResponse_data (aaudioCmdRead_some hcmd)
    split
    · exact returns_ok _
    · refine Returns.bind (returns_readBytes halloc ?_) fun bytes _ => returns_ok _
      rw [hdata]
      have hcap : AAUDIO_BCE_QUEUE_ELEMENT_SIZE = 4096 := rfl
      omega
  · exact returns_ok _

theorem returns_queryVal (q : AaudioQuery) (old : Nat) : Returns (aaudioQueryVal q 4 old) :=
  Returns.bind (returns_primitiveProperty q (by decide)) fun _ _ => returns_ok _

theorem returns_initStreamInfo (q : AaudioStreamContent) (strm : AaudioStream) :
    Returns (aaudioInitStreamInfo q strm) :=
  Returns.bind (returns_primitiveProperty q.physFormat (by decide)) fun _ _ =>
    Returns.bind (returns_queryVal q.latency _) fun _ _ => returns_ok _

/-! ## Strings -/

/-- The string in an array that has its end in it. -/
def IsCString (s bytes : List UInt8) : Prop := 0 ∈ bytes ∧ bytes.takeWhile (· ≠ 0) = s

/-- A comparison with a string that ends inside a shorter array stays inside. -/
theorem strcmpEq_isSome {s t : List UInt8} (hend : 0 ∈ t) (hlen : t.length ≤ s.length) :
    (strcmpEq s t).isSome := by
  induction t generalizing s with
  | nil => cases hend
  | cons b t ih =>
    cases s with
    | nil => simp at hlen
    | cons a s =>
      rw [strcmpEq]
      split
      · rfl
      · next hab =>
        split
        · rfl
        · next ha =>
          have hne : ¬0 = b := fun hb => ha (by rw [not_not.mp hab, ← hb])
          exact ih (List.mem_of_ne_of_mem hne hend) (by simpa using hlen)

/-- What compares equal with a string compares with others as that string does. -/
theorem strcmpEq_congr {s t u : List UInt8} (h : strcmpEq t u = some true)
    (hs : u.length ≤ s.length) : strcmpEq s t = strcmpEq s u := by
  induction u generalizing s t with
  | nil => cases t <;> simp [strcmpEq] at h
  | cons c u ih =>
    cases t with
    | nil => simp [strcmpEq] at h
    | cons b t =>
      cases s with
      | nil => simp at hs
      | cons a s =>
        rw [strcmpEq] at h
        split at h
        · cases h
        · next hbc =>
          obtain rfl := not_not.mp hbc
          rw [strcmpEq, strcmpEq]
          split
          · rfl
          · next hab =>
            obtain rfl := not_not.mp hab
            split
            · rfl
            · next ha =>
              rw [if_neg ha] at h
              exact ih h (by simpa using hs)

theorem returns_aaudioStrcmp {fault : AaudioArray} {s t : List UInt8}
    (h : (strcmpEq s t).isSome) : Returns (aaudioStrcmp fault s t) := by
  obtain ⟨eq, heq⟩ := Option.isSome_iff_exists.mp h
  unfold aaudioStrcmp
  rw [heq]
  exact returns_ok _

theorem aaudioStrcmp_eq_ok {fault : AaudioArray} {s t : List UInt8} {eq : Bool}
    (h : aaudioStrcmp fault s t = .ok eq) : strcmpEq s t = some eq := by
  unfold aaudioStrcmp at h
  split at h
  · next heq => exact heq.trans (congrArg some (Except.ok.inj h))
  · cases h

/-! ## The UID -/

theorem strncpyBytes_length (src : List UInt8) : (strncpyBytes src).length = src.length := by
  unfold strncpyBytes
  have hle : (src.takeWhile (· ≠ 0)).length ≤ src.length := (List.takeWhile_sublist _).length_le
  simp only [List.length_append, List.length_replicate]
  omega

/-- Behind what `strncpy` stores of a string comes a zero, if one comes behind its bytes. -/
theorem isCString_strncpyBytes (src rest : List UInt8) :
    IsCString (src.takeWhile (· ≠ 0)) (strncpyBytes src ++ 0 :: rest) := by
  refine ⟨by simp, ?_⟩
  unfold strncpyBytes
  have hall : ∀ b ∈ src.takeWhile (· ≠ 0), decide (b ≠ 0) = true := fun b hb =>
    List.all_eq_true.mp List.all_takeWhile b hb
  generalize src.takeWhile (· ≠ 0) = s at hall ⊢
  rw [List.append_assoc, List.takeWhile_append_of_pos hall]
  cases src.length - s.length with
  | zero => simp
  | succ n => simp [List.replicate_succ]

/-- The received bytes of a UID. -/
def receivedUid (buf : AaudioMsg) (r : AaudioPropertyResponse) : List UInt8 :=
  (buf.data.drop r.data).take r.dataSize

/-- The bytes of a UID are stored in front of zeros; the zero behind them has no place
in the array if there are 128. -/
theorem aaudioStoreUid_eq {buf : AaudioMsg} (h : buf.Allocated) {r : AaudioPropertyResponse}
    (hdata : r.data = 49) (hle : r.dataSize ≤ AAUDIO_DEVICE_MAX_UID_LEN) :
    ∃ uid : Vector UInt8 129, aaudioStoreUid buf r = Table.set .uid uid (r.dataSize + 1) 0 ∧
      uid.toList = strncpyBytes (receivedUid buf r) ++ List.replicate (129 - r.dataSize) 0 := by
  have hmax : AAUDIO_DEVICE_MAX_UID_LEN = 128 := rfl
  have hcap : buf.data.length = 4096 := h.1
  have hlen : (receivedUid buf r).length = r.dataSize := by
    unfold receivedUid
    rw [List.length_take, List.length_drop]
    omega
  have hread : buf.readBytes r.data r.dataSize = .ok (receivedUid buf r) := by
    unfold AaudioMsg.readBytes
    rw [if_pos (by omega)]
    rfl
  have hroom : 0 + (strncpyBytes (receivedUid buf r)).length ≤ 129 := by
    rw [strncpyBytes_length]
    omega
  obtain ⟨uid, huid, hlist⟩ :=
    Table.setAll_ok (e := AaudioArray.uid) (t := AaudioSubdevice.zero.uid) hroom
  refine ⟨uid, ?_, ?_⟩
  · unfold aaudioStoreUid
    rw [hread]
    show (Table.setAll _ _ _ _ >>= _) = _
    rw [huid]
    rfl
  · rw [hlist, strncpyBytes_length, hlen, Nat.zero_add, List.take_zero, List.nil_append]
    congr 1
    show (Vector.replicate 129 (0 : UInt8)).toList.drop r.dataSize = _
    rw [Vector.toList_replicate, List.drop_replicate]

theorem returns_storeUid_iff {buf : AaudioMsg} (h : buf.Allocated) {r : AaudioPropertyResponse}
    (hdata : r.data = 49) (hle : r.dataSize ≤ AAUDIO_DEVICE_MAX_UID_LEN) :
    Returns (aaudioStoreUid buf r) ↔ r.dataSize ≠ AAUDIO_DEVICE_MAX_UID_LEN := by
  obtain ⟨uid, heq, -⟩ := aaudioStoreUid_eq h hdata hle
  have hmax : AAUDIO_DEVICE_MAX_UID_LEN = 128 := rfl
  rw [heq, Table.returns_set_iff]
  omega

/-- The stored UID is the received bytes up to the first zero, with a zero behind. -/
theorem aaudioStoreUid_isCString {buf : AaudioMsg} (h : buf.Allocated)
    {r : AaudioPropertyResponse} (hdata : r.data = 49)
    (hle : r.dataSize ≤ AAUDIO_DEVICE_MAX_UID_LEN) {uid : Vector UInt8 129}
    (hok : aaudioStoreUid buf r = .ok uid) :
    IsCString ((receivedUid buf r).takeWhile (· ≠ 0)) uid.toList := by
  obtain ⟨uid', heq, hlist⟩ := aaudioStoreUid_eq h hdata hle
  obtain ⟨hlt, rfl⟩ := Table.set_eq_ok_iff.mp (heq.symm.trans hok)
  have hlen : (strncpyBytes (receivedUid buf r)).length = r.dataSize := by
    have hcap : buf.data.length = 4096 := h.1
    have hmax : AAUDIO_DEVICE_MAX_UID_LEN = 128 := rfl
    rw [strncpyBytes_length, receivedUid, List.length_take, List.length_drop]
    omega
  have htail : (List.replicate (129 - r.dataSize) (0 : UInt8)).set 1 0 =
      0 :: List.replicate (128 - r.dataSize) 0 := by
    rw [List.set_replicate_self, ← List.replicate_succ]
    congr 1
    omega
  rw [Vector.toList_set, hlist, List.set_append_right _ _ (by omega), hlen,
    Nat.add_sub_cancel_left, htail]
  exact isCString_strncpyBytes _ _

/-! ## Subdevices -/

/-- The UID is one of the two that are not disabled, and a direction has at most as
many streams as there are entries. -/
structure AaudioSubdevice.Ok (sdev : AaudioSubdevice) : Prop where
  enabled : ∃ known ∈ [speakerUid, codecOutputUid], strcmpEq sdev.uid.toList known = some true
  streamCnt : ∀ dir, sdev.streamCnt dir ≤ 1

/-- What the loops over streams leave alone. -/
structure SameSubdevice (sdev sdev' : AaudioSubdevice) : Prop where
  uid : sdev'.uid = sdev.uid
  streamCnt : ∀ dir, sdev'.streamCnt dir = sdev.streamCnt dir

section Subdevice

variable {sdev sdev' sdev'' : AaudioSubdevice} {dir : AaudioDir}

theorem SameSubdevice.trans (h : SameSubdevice sdev sdev') (h' : SameSubdevice sdev' sdev'') :
    SameSubdevice sdev sdev'' :=
  ⟨h'.uid.trans h.uid, fun dir => (h'.streamCnt dir).trans (h.streamCnt dir)⟩

theorem SameSubdevice.ok (h : SameSubdevice sdev sdev') (hok : sdev.Ok) : sdev'.Ok where
  enabled := h.uid.symm ▸ hok.enabled
  streamCnt dir := h.streamCnt dir ▸ hok.streamCnt dir

theorem sameSubdevice_setStreams (sdev : AaudioSubdevice) (streams : Vector AaudioStream 1)
    (dir : AaudioDir) : SameSubdevice sdev (sdev.setStreams streams dir) := by
  cases dir <;> exact ⟨rfl, fun dir => by cases dir <;> rfl⟩

@[simp] theorem setStreamCnt_uid (cnt : Nat) (dir : AaudioDir) :
    (sdev.setStreamCnt cnt dir).uid = sdev.uid := by
  cases dir <;> rfl

theorem setStreamCnt_le {cnt : Nat} (hcnt : cnt ≤ 1) (h : ∀ dir, sdev.streamCnt dir ≤ 1)
    (dir dir' : AaudioDir) : (sdev.setStreamCnt cnt dir).streamCnt dir' ≤ 1 := by
  cases dir with
  | input =>
    cases dir' with
    | input => exact hcnt
    | output => exact h .output
  | output =>
    cases dir' with
    | input => exact h .input
    | output => exact hcnt

theorem maxStreams_eq (dir : AaudioDir) : dir.maxStreams = 1 := by
  cases dir <;> rfl

/-- The loop over the streams of a list stays inside the arrays. -/
theorem returns_initStreams {buf : AaudioMsg} (h : buf.Allocated) {l : AaudioListResponse}
    (hlist : l.list = 29) (content : Nat → AaudioStreamContent) :
    Returns (aaudioInitStreams dir buf l content sdev) := by
  have hcap : AAUDIO_BCE_QUEUE_ELEMENT_SIZE = 4096 := rfl
  unfold aaudioInitStreams
  refine (foldlM_returns_iff (P := fun _ => True) (Q := fun _ => True) (fun _ _ _ _ _ => trivial)
    (fun sdev i hi _ => ?_) trivial).mpr fun _ _ => trivial
  have hlt : i < 1 := by
    have hi := List.mem_range.mp hi
    rw [maxStreams_eq] at hi
    split at hi <;> omega
  refine ⟨fun _ => trivial, fun _ => ?_⟩
  refine Returns.bind (returns_readBytes h (by omega)) fun id _ => ?_
  refine Returns.bind (Table.returns_get_iff.mpr hlt) fun strm _ => ?_
  refine Returns.bind (returns_initStreamInfo _ _) fun strm _ => ?_
  exact Returns.bind (Table.returns_set_iff.mpr hlt) fun streams _ => returns_ok _

/-- It sets the count, and leaves the UID and the other direction alone. -/
theorem aaudioInitStreams_keeps {buf : AaudioMsg} {l : AaudioListResponse}
    {content : Nat → AaudioStreamContent} (hcnt : ∀ dir, sdev.streamCnt dir ≤ 1)
    (hok : aaudioInitStreams dir buf l content sdev = .ok sdev') :
    sdev'.uid = sdev.uid ∧ ∀ dir, sdev'.streamCnt dir ≤ 1 := by
  unfold aaudioInitStreams at hok
  refine foldlM_keeps
    (P := fun s : AaudioSubdevice => s.uid = sdev.uid ∧ ∀ dir, s.streamCnt dir ≤ 1)
    ?_ ⟨setStreamCnt_uid _ _, setStreamCnt_le ?_ hcnt dir⟩ hok
  · rintro s i s' ⟨huid, hs⟩ hstep
    obtain ⟨id, -, hstep⟩ := Except.bind_eq_ok_iff.mp hstep
    obtain ⟨strm, -, hstep⟩ := Except.bind_eq_ok_iff.mp hstep
    obtain ⟨strm', -, hstep⟩ := Except.bind_eq_ok_iff.mp hstep
    obtain ⟨streams, -, hstep⟩ := Except.bind_eq_ok_iff.mp hstep
    cases hstep
    have hsame := sameSubdevice_setStreams s streams dir
    exact ⟨hsame.uid.trans huid, fun dir' => (hsame.streamCnt dir').symm ▸ hs dir'⟩
  · rw [maxStreams_eq]
    split <;> omega

end Subdevice

/-! ## A device -/

section Dev

variable {a a' : AaudioSubdevices} {d : AaudioDevContent} {buf : AaudioMsg} {uid : Vector UInt8 129}

theorem returns_enabledUid (uid : Vector UInt8 129) : Returns (aaudioEnabledUid uid) := by
  have hlen : uid.toList.length = 129 := uid.length_toList
  unfold aaudioEnabledUid
  refine Returns.bind (returns_aaudioStrcmp (strcmpEq_isSome (by decide) ?_)) fun speaker _ => ?_
  · rw [hlen]
    decide
  · split
    · exact returns_ok _
    · refine returns_aaudioStrcmp (strcmpEq_isSome (by decide) ?_)
      rw [hlen]
      decide

theorem aaudioEnabledUid_true (h : aaudioEnabledUid uid = .ok true) :
    ∃ known ∈ [speakerUid, codecOutputUid], strcmpEq uid.toList known = some true := by
  unfold aaudioEnabledUid at h
  obtain ⟨speaker, hspeaker, h⟩ := Except.bind_eq_ok_iff.mp h
  split at h
  · next hs =>
    subst hs
    exact ⟨speakerUid, List.mem_cons_self, aaudioStrcmp_eq_ok hspeaker⟩
  · exact ⟨codecOutputUid, by simp, aaudioStrcmp_eq_ok h⟩

/-- A list response with the buffer it came in. -/
theorem listResponse_allocated {type : Nat} {e : AaudioExchange} {buf' : AaudioMsg}
    {l : AaudioListResponse} (h : buf.Allocated)
    (hcmd : aaudioCmdRead (aaudioMsgReadListResponse type) e buf = (some l, buf')) :
    buf'.Allocated ∧ l.list = 29 :=
  ⟨aaudioCmdRead_allocated h hcmd, listResponse_list (aaudioCmdRead_some hcmd)⟩

theorem returns_initSubdev (h : buf.Allocated) : Returns (aaudioInitSubdev a d buf uid) := by
  unfold aaudioInitSubdev
  refine Returns.bind (returns_queryVal _ _) fun inLatency _ => ?_
  refine Returns.bind (returns_queryVal _ _) fun outLatency _ => ?_
  split
  · exact returns_ok _
  · next l buf₁ hin =>
    obtain ⟨hbuf₁, hl⟩ := listResponse_allocated h hin
    refine Returns.bind (returns_initStreams hbuf₁ hl _) fun sdev _ => ?_
    split
    · exact returns_ok _
    · next l' buf₂ hout =>
      obtain ⟨hbuf₂, hl'⟩ := listResponse_allocated hbuf₁ hout
      exact Returns.bind (returns_initStreams hbuf₂ hl' _) fun sdev _ => returns_ok _

theorem createPcm_same (sndPcmNew : Int) (sdev : AaudioSubdevice) (next : Nat) :
    SameSubdevice sdev (aaudioCreatePcm sndPcmNew sdev next).1 := by
  unfold aaudioCreatePcm
  split
  · exact ⟨rfl, fun _ => rfl⟩
  · split <;> exact ⟨rfl, fun dir => by cases dir <;> rfl⟩

/-- A device that is added has an enabled UID, and counts within the arrays. -/
theorem aaudioInitSubdev_keeps
    (huid : ∃ known ∈ [speakerUid, codecOutputUid], strcmpEq uid.toList known = some true)
    (hall : ∀ sdev ∈ a.list, sdev.Ok) (hok : aaudioInitSubdev a d buf uid = .ok a') :
    ∀ sdev ∈ a'.list, sdev.Ok := by
  unfold aaudioInitSubdev at hok
  obtain ⟨inLatency, -, hok⟩ := Except.bind_eq_ok_iff.mp hok
  obtain ⟨outLatency, -, hok⟩ := Except.bind_eq_ok_iff.mp hok
  split at hok
  · cases hok
    exact hall
  · obtain ⟨sdev₁, hin, hok⟩ := Except.bind_eq_ok_iff.mp hok
    obtain ⟨huid₁, hcnt₁⟩ :=
      aaudioInitStreams_keeps (fun dir => by cases dir <;> exact Nat.zero_le _) hin
    split at hok
    · cases hok
      exact hall
    · obtain ⟨sdev₂, hout, hok⟩ := Except.bind_eq_ok_iff.mp hok
      obtain ⟨huid₂, hcnt₂⟩ := aaudioInitStreams_keeps hcnt₁ hout
      have hsdev : sdev₂.Ok := ⟨(huid₂.trans huid₁).symm ▸ huid, hcnt₂⟩
      cases hok
      intro sdev hmem
      obtain hmem | hmem := List.mem_append.mp hmem
      · exact hall sdev hmem
      · obtain rfl := List.mem_singleton.mp hmem
        split
        · exact (createPcm_same _ _ _).ok hsdev
        · exact hsdev

/-- The UID a device answers with, if it does and the length is not too large, is not
of the length that leaves no place for the zero. -/
def AaudioDevContent.UidFits (d : AaudioDevContent) : Prop :=
  ∀ r, (aaudioCmdGetProperty d.uid (aaudioReplyAlloc d.mem)).1 = some r →
    r.dataSize ≠ AAUDIO_DEVICE_MAX_UID_LEN

/-- The response with the UID, and the buffer it came in. -/
theorem uidResponse_allocated {r : AaudioPropertyResponse}
    (hcmd : aaudioCmdGetProperty d.uid (aaudioReplyAlloc d.mem) = (some r, buf)) :
    buf.Allocated ∧ r.data = 49 :=
  ⟨aaudioCmdRead_allocated (aaudioReplyAlloc_allocated d.mem) hcmd,
    propertyResponse_data (aaudioCmdRead_some hcmd)⟩

/-- **A device.** Asking a device leads out of an array exactly if its UID has 128 bytes. -/
theorem aaudioInitDev_returns_iff : Returns (aaudioInitDev a d) ↔ d.UidFits := by
  unfold aaudioInitDev AaudioDevContent.UidFits
  split
  · next hcmd =>
    rw [hcmd]
    exact ⟨fun _ => nofun, fun _ => returns_ok _⟩
  · next r buf hcmd =>
    obtain ⟨halloc, hdata⟩ := uidResponse_allocated hcmd
    have hfits : (∀ r', (aaudioCmdGetProperty d.uid (aaudioReplyAlloc d.mem)).1 = some r' →
        r'.dataSize ≠ AAUDIO_DEVICE_MAX_UID_LEN) ↔ r.dataSize ≠ AAUDIO_DEVICE_MAX_UID_LEN := by
      rw [hcmd]
      exact ⟨fun h => h r rfl, fun h r' hr' => Option.some.inj hr' ▸ h⟩
    rw [hfits]
    split
    · next hlong => exact ⟨fun _ => by omega, fun _ => returns_ok _⟩
    · next hle =>
      rw [← returns_storeUid_iff halloc hdata (Nat.not_lt.mp hle), returns_bind]
      constructor
      · rintro ⟨uid, huid, -⟩
        exact ⟨uid, huid⟩
      · rintro ⟨uid, huid⟩
        refine ⟨uid, huid, Returns.bind (returns_enabledUid uid) fun enabled _ => ?_⟩
        split
        · exact returns_initSubdev halloc
        · exact returns_ok _

theorem aaudioInitDev_keeps (hall : ∀ sdev ∈ a.list, sdev.Ok) (hok : aaudioInitDev a d = .ok a') :
    ∀ sdev ∈ a'.list, sdev.Ok := by
  unfold aaudioInitDev at hok
  split at hok
  · cases hok
    exact hall
  · split at hok
    · cases hok
      exact hall
    · obtain ⟨uid, -, hok⟩ := Except.bind_eq_ok_iff.mp hok
      obtain ⟨enabled, henabled, hok⟩ := Except.bind_eq_ok_iff.mp hok
      split at hok
      · next htrue =>
        subst htrue
        exact aaudioInitSubdev_keeps (aaudioEnabledUid_true henabled) hall hok
      · cases hok
        exact hall

end Dev

/-! ## The `BufferStruct` -/

section Bs

variable {c : AaudioBsContent} {list list' : List AaudioSubdevice} {dir : AaudioDir}
variable {dev : AaudioBufferStructDevice} {sdev sdev' : AaudioSubdevice} {i : Nat}

/-- A subdevice of the list has this name. -/
def Registered (list : List AaudioSubdevice) (dev : AaudioBufferStructDevice) : Prop :=
  ∃ uid ∈ list.map AaudioSubdevice.uid, strcmpEq dev.name.toList uid.toList = some true

/-- The name of a device is compared with enabled UIDs only, and these are short. -/
theorem strcmpEq_name_isSome (hsdev : sdev.Ok) (dev : AaudioBufferStructDevice) :
    (strcmpEq dev.name.toList sdev.uid.toList).isSome := by
  have hlen : dev.name.toList.length = 128 := dev.name.length_toList
  have hshort : ∀ known ∈ [speakerUid, codecOutputUid], 0 ∈ known ∧ known.length ≤ 128 := by decide
  obtain ⟨known, hknown, heq⟩ := hsdev.enabled
  obtain ⟨hend, hle⟩ := hshort known hknown
  have hlong : known.length ≤ dev.name.toList.length := by omega
  rw [strcmpEq_congr heq hlong]
  exact strcmpEq_isSome hend hlong

theorem aaudioFindDevByUid_ok (hall : ∀ sdev ∈ list, sdev.Ok) (dev : AaudioBufferStructDevice) :
    ∃ found, aaudioFindDevByUid dev.name.toList list = .ok found ∧
      (found.isSome ↔ Registered list dev) ∧
      ∀ k sdev, found = some (k, sdev) → list[k]? = some sdev := by
  induction list with
  | nil =>
    have hnone : ¬Registered [] dev := fun ⟨_, h, _⟩ => nomatch h
    exact ⟨none, rfl, ⟨nofun, fun h => absurd h hnone⟩, nofun⟩
  | cons sdev list ih =>
    obtain ⟨eq, heq⟩ :=
      Option.isSome_iff_exists.mp (strcmpEq_name_isSome (hall sdev List.mem_cons_self) dev)
    have hcmp : aaudioStrcmp .name dev.name.toList sdev.uid.toList = .ok eq := by
      unfold aaudioStrcmp
      rw [heq]
    have hregistered : Registered (sdev :: list) dev ↔ eq = true ∨ Registered list dev := by
      unfold Registered
      simp only [List.map_cons, List.exists_mem_cons_iff, heq, Option.some.injEq]
    rw [aaudioFindDevByUid, hcmp]
    cases eq with
    | true =>
      refine ⟨some (0, sdev), rfl, ⟨fun _ => hregistered.mpr (.inl rfl), fun _ => rfl⟩, ?_⟩
      rintro k sdev' heq'
      cases heq'
      rfl
    | false =>
      obtain ⟨found, hfound, hiff, hget⟩ := ih fun s hs => hall s (List.mem_cons_of_mem _ hs)
      refine ⟨found.map fun found => (found.1 + 1, found.2), ?_, ?_, ?_⟩
      · show (aaudioFindDevByUid dev.name.toList list >>= _) = _
        rw [hfound]
        rfl
      · rw [Option.isSome_map, hiff, hregistered]
        simp
      · intro k sdev' hk
        obtain ⟨⟨k', sdev''⟩, hsome, heq'⟩ := Option.map_eq_some_iff.mp hk
        cases heq'
        exact hget k' _ hsome

/-- A stream has at most one buffer, and that is in both tables. -/
theorem returns_initBsStream (c : AaudioBsContent) (allocated : Bool) (strm : AaudioStream)
    (bs : AaudioBufferStructStream) : Returns (aaudioInitBsStream c allocated strm bs) := by
  unfold aaudioInitBsStream
  have hcnt : (if AAUDIO_DEIVCE_MAX_BUFFER_COUNT < bs.numBuffers.toNat then
      AAUDIO_DEIVCE_MAX_BUFFER_COUNT else bs.numBuffers.toNat) ≤ 1 := by
    have hmax : AAUDIO_DEIVCE_MAX_BUFFER_COUNT = 1 := rfl
    split <;> omega
  generalize (if AAUDIO_DEIVCE_MAX_BUFFER_COUNT < bs.numBuffers.toNat then
      AAUDIO_DEIVCE_MAX_BUFFER_COUNT else bs.numBuffers.toNat) = cnt at hcnt ⊢
  simp only
  split
  · exact returns_ok _
  · refine Returns.bind ?_ fun buffers _ => ?_
    · refine (foldlM_returns_iff (P := fun _ => True) (Q := fun _ => True)
        (fun _ _ _ _ _ => trivial) (fun buffers i hi _ => ?_) trivial).mpr fun _ _ => trivial
      have hlt : i < cnt := List.mem_range.mp hi
      refine ⟨fun _ => trivial, fun _ => ?_⟩
      exact Returns.bind (Table.returns_get_iff.mpr (by omega)) fun b _ =>
        Table.returns_set_iff.mpr hlt
    · split
      · next hone =>
        exact Returns.bind (Table.returns_get_iff.mpr (by omega)) fun b _ => returns_ok _
      · exact returns_ok _

/-- The streams of a device are read whatever their number is. -/
theorem aaudioInitBsStreams_returns_iff (hcnt : sdev.streamCnt dir ≤ 1) :
    Returns (aaudioInitBsStreams c i dir dev sdev) ↔ (dev.numStreams dir).toNat ≤ 5 := by
  unfold aaudioInitBsStreams
  rw [foldlM_returns_iff (P := fun s : AaudioSubdevice => s.streamCnt dir ≤ 1) (Q := fun j => j < 5)
    ?_ ?_ hcnt]
  · constructor
    · intro h
      by_contra hlt
      exact absurd (h 5 (List.mem_range.mpr (by omega))) (by omega)
    · intro h j hj
      have hj := List.mem_range.mp hj
      omega
  · intro s j s' hs hstep
    obtain ⟨bs, -, hstep⟩ := Except.bind_eq_ok_iff.mp hstep
    split at hstep
    · obtain ⟨strm, -, hstep⟩ := Except.bind_eq_ok_iff.mp hstep
      obtain ⟨strm', -, hstep⟩ := Except.bind_eq_ok_iff.mp hstep
      obtain ⟨streams, -, hstep⟩ := Except.bind_eq_ok_iff.mp hstep
      cases hstep
      exact (sameSubdevice_setStreams s streams dir).streamCnt dir ▸ hs
    · cases hstep
      exact hs
  · intro s j _ hs
    rw [returns_bind, ← Table.returns_get_iff (e := dir.bsArray) (t := dev.streams dir)]
    constructor
    · rintro ⟨bs, hget, -⟩
      exact ⟨bs, hget⟩
    · rintro ⟨bs, hget⟩
      refine ⟨bs, hget, ?_⟩
      split
      · next hlt =>
        have hone : j < 1 := by omega
        refine Returns.bind (Table.returns_get_iff.mpr hone) fun strm _ => ?_
        refine Returns.bind (returns_initBsStream _ _ _ _) fun strm' _ => ?_
        exact Returns.bind (Table.returns_set_iff.mpr hone) fun streams _ => returns_ok _
      · exact returns_ok _

theorem aaudioInitBsStreams_same (hok : aaudioInitBsStreams c i dir dev sdev = .ok sdev') :
    SameSubdevice sdev sdev' := by
  refine foldlM_keeps (P := SameSubdevice sdev) ?_ ⟨rfl, fun _ => rfl⟩ hok
  intro s j s' hs hstep
  obtain ⟨bs, -, hstep⟩ := Except.bind_eq_ok_iff.mp hstep
  split at hstep
  · obtain ⟨strm, -, hstep⟩ := Except.bind_eq_ok_iff.mp hstep
    obtain ⟨strm', -, hstep⟩ := Except.bind_eq_ok_iff.mp hstep
    obtain ⟨streams, -, hstep⟩ := Except.bind_eq_ok_iff.mp hstep
    cases hstep
    exact hs.trans (sameSubdevice_setStreams s streams dir)
  · cases hstep
    exact hs

/-- The counts of a device of the `BufferStruct` are those of its tables. -/
def AaudioBufferStructDevice.StreamsFit (dev : AaudioBufferStructDevice) : Prop :=
  dev.numInputStreams.toNat ≤ 5 ∧ dev.numOutputStreams.toNat ≤ 5

/-- The index is inside the table of devices, and if the device there is one of the
subdevices, its streams are inside theirs. -/
def AaudioBufferStruct.DeviceFits (bs : AaudioBufferStruct) (list : List AaudioSubdevice)
    (i : Nat) : Prop :=
  i < 20 ∧ ∀ dev, bs.devices[i]? = some dev → Registered list dev → dev.StreamsFit

/-- A device inside the array: its streams count if its UID is registered. -/
theorem aaudioInitBsDevice_found (hall : ∀ sdev ∈ list, sdev.Ok) {dev : AaudioBufferStructDevice}
    (hget : c.bs.devices[i]? = some dev) :
    Returns (aaudioInitBsDevice c list i) ↔ (Registered list dev → dev.StreamsFit) := by
  obtain ⟨found, hfound, hiff, hat⟩ := aaudioFindDevByUid_ok hall dev
  unfold aaudioInitBsDevice
  rw [Table.get_eq_ok_iff.mpr hget]
  show Returns (aaudioFindDevByUid dev.name.toList list >>= _) ↔ _
  rw [hfound]
  cases found with
  | none => exact ⟨fun _ hreg => absurd (hiff.mpr hreg) Bool.false_ne_true, fun _ => returns_ok _⟩
  | some found =>
    obtain ⟨k, sdev⟩ := found
    have hsdev : sdev.Ok := hall sdev (List.mem_of_getElem? (hat k sdev rfl))
    have hcnt : ∀ dir, ({ sdev with bufId := i % 256 } : AaudioSubdevice).streamCnt dir ≤ 1 := by
      intro dir
      cases dir
      · exact hsdev.streamCnt .input
      · exact hsdev.streamCnt .output
    show Returns (aaudioInitBsStreams c i .input dev _ >>= _) ↔ _
    have hreg : Registered list dev := hiff.mp rfl
    rw [returns_bind]
    constructor
    · rintro ⟨sdev₁, hin, hrest⟩ -
      obtain ⟨sdev₂, hout, -⟩ := returns_bind.mp hrest
      refine ⟨(aaudioInitBsStreams_returns_iff (hcnt .input)).mp ⟨_, hin⟩, ?_⟩
      have hcnt₁ := (aaudioInitBsStreams_same hin).streamCnt .output
      exact (aaudioInitBsStreams_returns_iff (hcnt₁ ▸ hcnt .output)).mp ⟨_, hout⟩
    · intro hfit
      obtain ⟨hins, houts⟩ := hfit hreg
      obtain ⟨sdev₁, hin⟩ :=
        (aaudioInitBsStreams_returns_iff (c := c) (i := i) (hcnt .input)).mpr hins
      refine ⟨sdev₁, hin, Returns.bind ?_ fun sdev₂ _ => returns_ok _⟩
      -- the input streams leave the number of output streams as it was
      have hcnt₁ := (aaudioInitBsStreams_same hin).streamCnt .output
      have hout : sdev₁.streamCnt .output ≤ 1 := hcnt₁ ▸ hcnt .output
      exact (aaudioInitBsStreams_returns_iff hout).mpr houts

theorem aaudioInitBsDevice_returns_iff (hall : ∀ sdev ∈ list, sdev.Ok) :
    Returns (aaudioInitBsDevice c list i) ↔ c.bs.DeviceFits list i := by
  by_cases hlt : i < 20
  · obtain ⟨dev, hget⟩ : ∃ dev, c.bs.devices[i]? = some dev :=
      ⟨c.bs.devices[i], Vector.getElem?_eq_getElem hlt⟩
    rw [aaudioInitBsDevice_found hall hget]
    constructor
    · intro h
      refine ⟨hlt, fun dev' hget' => ?_⟩
      obtain rfl : dev = dev' := Option.some.inj (hget.symm.trans hget')
      exact h
    · exact fun h => h.2 dev hget
  · -- the read of `devices[i]` is outside
    constructor
    · intro h
      obtain ⟨dev, hget, -⟩ := returns_bind.mp h
      exact absurd (Table.returns_get_iff.mp ⟨dev, hget⟩) hlt
    · exact fun h => absurd h.1 hlt

/-- A device of the `BufferStruct` changes streams, and neither UIDs nor counts. -/
theorem aaudioInitBsDevice_keeps (hall : ∀ sdev ∈ list, sdev.Ok)
    (hok : aaudioInitBsDevice c list i = .ok list') :
    (∀ sdev ∈ list', sdev.Ok) ∧ list'.map AaudioSubdevice.uid = list.map AaudioSubdevice.uid := by
  unfold aaudioInitBsDevice at hok
  obtain ⟨dev, -, hok⟩ := Except.bind_eq_ok_iff.mp hok
  obtain ⟨found, hfound, hok⟩ := Except.bind_eq_ok_iff.mp hok
  obtain ⟨found', hfound', -, hat⟩ := aaudioFindDevByUid_ok hall dev
  obtain rfl : found' = found := Except.ok.inj (hfound'.symm.trans hfound)
  split at hok
  · cases hok
    exact ⟨hall, rfl⟩
  · next k sdev =>
    obtain ⟨sdev₁, hin, hok⟩ := Except.bind_eq_ok_iff.mp hok
    obtain ⟨sdev₂, hout, hok⟩ := Except.bind_eq_ok_iff.mp hok
    cases hok
    have hget : list[k]? = some sdev := hat k sdev rfl
    have hsame : SameSubdevice sdev sdev₂ := by
      have hbufId : SameSubdevice sdev { sdev with bufId := i % 256 } :=
        ⟨rfl, fun dir => by cases dir <;> rfl⟩
      exact hbufId.trans ((aaudioInitBsStreams_same hin).trans (aaudioInitBsStreams_same hout))
    refine ⟨fun s hs => ?_, ?_⟩
    · obtain hs | rfl := List.mem_or_eq_of_mem_set hs
      · exact hall s hs
      · exact hsame.ok (hall sdev (List.mem_of_getElem? hget))
    · obtain ⟨hk, hval⟩ := List.getElem?_eq_some_iff.mp hget
      have hk' : k < (list.map AaudioSubdevice.uid).length := by simpa using hk
      rw [List.map_set, hsame.uid, ← hval]
      have hmap : (list.map AaudioSubdevice.uid)[k] = list[k].uid := List.getElem_map _
      rw [← hmap, List.set_getElem_self]

/-- The devices of the `BufferStruct`, if it is looked at: at most 20, and for those
that are subdevices, at most 5 streams in each direction. -/
def AaudioBsContent.Fits (c : AaudioBsContent) (list : List AaudioSubdevice) : Prop :=
  c.Valid → c.bs.numDevices.toNat ≤ 20 ∧
    ∀ i dev, i < c.bs.numDevices.toNat → c.bs.devices[i]? = some dev → Registered list dev →
      dev.StreamsFit

theorem aaudioInitBs_returns_iff (hall : ∀ sdev ∈ list, sdev.Ok) :
    Returns (aaudioInitBs c list) ↔ c.Fits list := by
  unfold aaudioInitBs AaudioBsContent.Fits
  split
  · next hvalid =>
    have hloop : Returns ((List.range c.bs.numDevices.toNat).foldlM (aaudioInitBsDevice c) list) ↔
        ∀ i ∈ List.range c.bs.numDevices.toNat, c.bs.DeviceFits list i := by
      refine foldlM_returns_iff (P := fun l : List AaudioSubdevice => (∀ sdev ∈ l, sdev.Ok) ∧
        l.map AaudioSubdevice.uid = list.map AaudioSubdevice.uid) ?_ ?_ ⟨hall, rfl⟩
      · rintro l i l' ⟨hl, huids⟩ hstep
        obtain ⟨hl', huids'⟩ := aaudioInitBsDevice_keeps hl hstep
        exact ⟨hl', huids'.trans huids⟩
      · rintro l i - ⟨hl, huids⟩
        rw [aaudioInitBsDevice_returns_iff hl]
        unfold AaudioBufferStruct.DeviceFits Registered
        rw [huids]
    have hret : Returns ((List.range c.bs.numDevices.toNat).foldlM (aaudioInitBsDevice c) list >>=
          fun l => (pure (0, l) : Except AaudioArray (Int × List AaudioSubdevice))) ↔
        Returns ((List.range c.bs.numDevices.toNat).foldlM (aaudioInitBsDevice c) list) :=
      ⟨fun h => (returns_bind.mp h).imp fun _ h => h.1,
        fun h => Returns.bind h fun _ _ => returns_ok _⟩
    rw [hret, hloop]
    constructor
    · intro h _
      refine ⟨?_, fun i dev hi => (h i (List.mem_range.mpr hi)).2 dev⟩
      by_contra hlt
      exact absurd (h 20 (List.mem_range.mpr (by omega))).1 (by omega)
    · intro h i hi
      obtain ⟨hnum, hdevs⟩ := h hvalid
      have hi := List.mem_range.mp hi
      exact ⟨by omega, fun dev => hdevs i dev hi⟩
  · next hinvalid => exact ⟨fun _ hvalid => absurd hvalid hinvalid, fun _ => returns_ok _⟩

end Bs

/-! ## The result -/

/-- Every UID that is stored is the received bytes up to the first zero, with a zero
behind. -/
def AaudioDevContent.UidStored (d : AaudioDevContent) : Prop :=
  ∀ r buf uid, aaudioCmdGetProperty d.uid (aaudioReplyAlloc d.mem) = (some r, buf) →
    r.dataSize ≤ AAUDIO_DEVICE_MAX_UID_LEN → aaudioStoreUid buf r = .ok uid →
    IsCString ((receivedUid buf r).takeWhile (· ≠ 0)) uid.toList

/-- **Array bounds.** Whatever the devices and the `BufferStruct` contain, every access
is inside its array, and the stored UIDs are the received ones, exactly if no accepted
UID has 128 bytes and, with the subdevices there are when it is looked at, the
`BufferStruct` counts no more devices and streams than its tables have. -/
theorem aaudio_init_in_bounds_iff (devs : List AaudioDevContent) (c : AaudioBsContent) :
    (Returns (aaudioInit devs c) ∧ ∀ d ∈ devs, d.UidStored) ↔
      (∀ d ∈ devs, d.UidFits) ∧
      ∀ a, devs.foldlM aaudioInitDev ⟨[], 0⟩ = .ok a → c.Fits a.list := by
  have hstored : ∀ d ∈ devs, d.UidStored := by
    intro d _ r buf uid hcmd hle hok
    obtain ⟨halloc, hdata⟩ := uidResponse_allocated hcmd
    exact aaudioStoreUid_isCString halloc hdata hle hok
  have hdevs : Returns (devs.foldlM aaudioInitDev ⟨[], 0⟩) ↔ ∀ d ∈ devs, d.UidFits :=
    foldlM_returns_iff (P := fun _ => True) (Q := AaudioDevContent.UidFits)
      (fun _ _ _ _ _ => trivial) (fun _ _ _ _ => aaudioInitDev_returns_iff) trivial
  have hall : ∀ a, devs.foldlM aaudioInitDev ⟨[], 0⟩ = .ok a → ∀ sdev ∈ a.list, sdev.Ok := by
    intro a ha
    exact foldlM_keeps (P := fun a : AaudioSubdevices => ∀ sdev ∈ a.list, sdev.Ok)
      (fun _ _ _ h => aaudioInitDev_keeps h) (fun _ h => absurd h List.not_mem_nil) ha
  rw [← hdevs]
  unfold aaudioInit
  rw [returns_bind]
  constructor
  · rintro ⟨⟨a, ha, hbs⟩, -⟩
    refine ⟨⟨a, ha⟩, fun a' ha' => ?_⟩
    obtain rfl : a = a' := Except.ok.inj (ha.symm.trans ha')
    exact (aaudioInitBs_returns_iff (hall a ha)).mp hbs
  · rintro ⟨⟨a, ha⟩, hfits⟩
    exact ⟨⟨a, ha, (aaudioInitBs_returns_iff (hall a ha)).mpr (hfits a ha)⟩, hstored⟩

/-! ## A UID of 128 bytes, and 21 devices -/

/-- The reply with a UID of 128 bytes, which the check of its length accepts. -/
def longUidReply : AaudioReply where
  bytes := aaudioTag 1 ++ [2] ++ List.replicate 8 0 ++ [8, 0, 0, 0] ++ List.replicate 24 0 ++
    [128, 0, 0, 0, 0, 0, 0, 0] ++ List.replicate 128 0x55
  header := by decide +kernel
  fits := by decide +kernel

/-- A device that answers with its UID and nothing else. -/
def longUidDevice : AaudioDevContent where
  devId := 1
  mem := zeroMemory
  uid := .replied longUidReply
  inLatency := ⟨.timedOut, zeroMemory⟩
  outLatency := ⟨.timedOut, zeroMemory⟩
  inputStreams := .timedOut
  outputStreams := .timedOut
  stream _ _ := ⟨⟨.timedOut, zeroMemory⟩, ⟨.timedOut, zeroMemory⟩⟩
  sndPcmNew := 0

/-- A `BufferStruct` with this number of devices, none of them named. -/
def unnamedBs (numDevices : UInt8) : AaudioBsContent where
  gprVersion := 3
  gprSig := AAUDIO_SIG
  bs :=
    { signature := AAUDIO_SIG
      numDevices
      devices := .replicate 20 ⟨.replicate 128 0, 0, 0, .replicate 5 ⟨0, .replicate 100 ⟨0, 0⟩⟩,
        .replicate 5 ⟨0, .replicate 100 ⟨0, 0⟩⟩⟩ }
  regMemBs := 0
  regMemBsDma := 0
  kmallocArray _ _ _ := true

/-- The zero behind 128 bytes, and the device behind the 20th, are out of range. -/
theorem init_out_of_bounds :
    ¬Returns (aaudioInit [longUidDevice] (unnamedBs 1)) ∧
      ¬Returns (aaudioInit [] (unnamedBs 21)) := by
  constructor
  · intro h
    obtain ⟨a, ha, -⟩ := returns_bind.mp h
    rw [List.foldlM_cons] at ha
    obtain ⟨a', ha', -⟩ := Except.bind_eq_ok_iff.mp ha
    have hfits : longUidDevice.UidFits := aaudioInitDev_returns_iff.mp ⟨a', ha'⟩
    have hsize : (aaudioCmdGetProperty (.replied longUidReply) (aaudioReplyAlloc zeroMemory)).1.map
        AaudioPropertyResponse.dataSize = some 128 := by decide +kernel
    obtain ⟨r, hr, hlen⟩ := Option.map_eq_some_iff.mp hsize
    exact hfits r hr hlen
  · intro h
    obtain ⟨a, ha, hbs⟩ := returns_bind.mp h
    obtain rfl : (⟨[], 0⟩ : AaudioSubdevices) = a := Except.ok.inj ha
    have hfits := (aaudioInitBs_returns_iff fun _ h => absurd h List.not_mem_nil).mp hbs
    exact absurd (hfits ⟨Nat.le_refl 3, rfl, rfl⟩).1 (by decide)

end BceDriver
