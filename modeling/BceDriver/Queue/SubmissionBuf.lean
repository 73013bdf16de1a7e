import BceDriver.Queue.Basic
import BceDriver.Queue.SegmentList

/-!
# Submitting a part of a buffer (`queue_dma.c`)

`bce_set_submission_buf` fills in a submission for the bytes from an offset on, of a
mapped buffer: with their address if the buffer is one contiguous entry, and else with
the segment they start in and the offset in it.

- `BceDmaBuffer.window` is what a device takes a submission for: where in the buffer
  its bytes start, and how many they are.
- `segmentWalk_spec` is what the loop over the segments finds.

With segments the length of the first entry is submitted, whatever length is asked for,
and an offset at the end of a segment is left in that segment.
-/

namespace BceDriver

/-! ## `bce_set_submission_buf` -/

/-- What the function reads of `struct bce_dma_buffer`. -/
structure BceDmaBuffer where
  /-- the first entry of the scatterlist, as it was mapped -/
  sgl : SgEntry
  /-- the list at `seglist_hostinfo`, empty for `NULL` -/
  seglistHostinfo : List SegmentHostinfo
deriving DecidableEq, Repr

/-- `data_size`, in the header of a segment -/
def SegmentHostinfo.dataSize (mem : Memory) (seg : SegmentHostinfo) : Nat :=
  mem (headerDataSize seg.pageStart)

/-- The loop: the segment it stops at, and the offset there. -/
def segmentWalk (mem : Memory) : List SegmentHostinfo → Nat → Option (SegmentHostinfo × Nat)
  | [], _ => none
  | seg :: list, offset =>
    if offset ≤ seg.dataSize mem then some (seg, offset)
    else segmentWalk mem list (offset - seg.dataSize mem)

def bceSetSubmissionBuf (mem : Memory) (element : BceQeSubmission) (buf : BceDmaBuffer)
    (offset length : Nat) : Int × BceQeSubmission :=
  if buf.seglistHostinfo = [] then
    (0, { element with
      addr := (buf.sgl.dmaAddress + offset) % 2 ^ 64
      length := length
      seglAddr := 0
      seglLength := 0 })
  else
    match segmentWalk mem buf.seglistHostinfo offset with
    | none => (-EINVAL, element)
    | some (seg, offset) =>
      (0, { element with
        addr := offset
        length := buf.sgl.length
        seglAddr := seg.dmaStart
        seglLength := seg.pageCount * PAGE_SIZE })

/-! ## What a submission denotes -/

section Window

variable (mem : Memory)

/-- The bytes in segments. -/
def segmentsSize (list : List SegmentHostinfo) : Nat :=
  (list.map (SegmentHostinfo.dataSize mem)).sum

/-- The total size of the buffer. -/
def BceDmaBuffer.size (buf : BceDmaBuffer) : Nat :=
  if buf.seglistHostinfo = [] then buf.sgl.length else segmentsSize mem buf.seglistHostinfo

/-- The bytes that start in the segment that is named, behind `before` bytes of others. -/
def segmentWindow (e : BceQeSubmission) : List SegmentHostinfo → Nat → Option (Nat × Nat)
  | [], _ => none
  | seg :: list, before =>
    if seg.dmaStart = e.seglAddr then
      if seg.pageCount * PAGE_SIZE = e.seglLength ∧ e.addr < seg.dataSize mem then
        some (before + e.addr, e.length)
      else none
    else segmentWindow e list (before + seg.dataSize mem)

/-- The bytes of the buffer that a submission denotes: the first, and how many. -/
def BceDmaBuffer.window (buf : BceDmaBuffer) (e : BceQeSubmission) : Option (Nat × Nat) :=
  if buf.seglistHostinfo = [] then
    if e.seglAddr = 0 ∧ e.seglLength = 0 ∧ buf.sgl.dmaAddress ≤ e.addr then
      some (e.addr - buf.sgl.dmaAddress, e.length)
    else none
  else segmentWindow mem e buf.seglistHostinfo 0

/-- A buffer as it was mapped: an entry that ends inside the address space, or segments
with bytes in each, no two of them at one address. -/
structure BceDmaBuffer.Mapped (buf : BceDmaBuffer) : Prop where
  inside : buf.seglistHostinfo = [] → buf.sgl.dmaAddress + buf.sgl.length ≤ 2 ^ 64
  positive : ∀ seg ∈ buf.seglistHostinfo, 0 < seg.dataSize mem
  distinct : (buf.seglistHostinfo.map SegmentHostinfo.dmaStart).Nodup

/-- The offset is where a segment ends. -/
def SegmentEnd (list : List SegmentHostinfo) (offset : Nat) : Prop :=
  ∃ first rest, first ≠ [] ∧ list = first ++ rest ∧ segmentsSize mem first = offset

end Window

/-! ## The loop over the segments -/

variable {mem : Memory} {list : List SegmentHostinfo} {seg : SegmentHostinfo}

theorem segmentsSize_cons (seg : SegmentHostinfo) (list : List SegmentHostinfo) :
    segmentsSize mem (seg :: list) = seg.dataSize mem + segmentsSize mem list := by
  rw [segmentsSize, segmentsSize, List.map_cons, List.sum_cons]

/-- The end of the first segment, or of one behind it. -/
theorem segmentEnd_cons_iff (hpos : ∀ s ∈ list, 0 < s.dataSize mem) {offset : Nat} :
    SegmentEnd mem (seg :: list) offset ↔
      offset = seg.dataSize mem ∨
        seg.dataSize mem < offset ∧ SegmentEnd mem list (offset - seg.dataSize mem) := by
  constructor
  · rintro ⟨first, rest, hne, heq, rfl⟩
    obtain ⟨s, first, rfl⟩ := List.exists_cons_of_ne_nil hne
    obtain ⟨rfl, rfl⟩ := List.cons.inj heq
    rw [segmentsSize_cons]
    cases first with
    | nil => exact .inl rfl
    | cons t first =>
      have hsize : 0 < segmentsSize mem (t :: first) := by
        rw [segmentsSize_cons]
        exact Nat.add_pos_left (hpos t (List.mem_append_left _ (List.mem_cons_self ..))) _
      rw [Nat.add_sub_cancel_left]
      exact .inr ⟨by omega, t :: first, rest, List.cons_ne_nil _ _, rfl, rfl⟩
  · rintro (rfl | ⟨hlt, first, rest, hne, rfl, hsize⟩)
    · exact ⟨[seg], list, List.cons_ne_nil _ _, rfl, rfl⟩
    · refine ⟨seg :: first, rest, List.cons_ne_nil _ _, rfl, ?_⟩
      rw [segmentsSize_cons]
      omega

/-- The loop ends without a segment just behind the last one. -/
theorem segmentWalk_eq_none_iff {offset : Nat} :
    segmentWalk mem list offset = none ↔ list = [] ∨ segmentsSize mem list < offset := by
  induction list generalizing offset with
  | nil => exact iff_of_true rfl (.inl rfl)
  | cons s list ih =>
    rw [segmentWalk, segmentsSize_cons]
    split
    · simp
      omega
    · rw [ih]
      cases list with
      | nil =>
        simp [segmentsSize]
        omega
      | cons t list =>
        simp
        omega

theorem segmentWalk_mem {offset rest : Nat}
    (h : segmentWalk mem list offset = some (seg, rest)) : seg ∈ list := by
  induction list generalizing offset with
  | nil => cases h
  | cons s list ih =>
    rw [segmentWalk] at h
    split at h
    · obtain ⟨rfl, rfl⟩ := Prod.mk.inj (Option.some.inj h)
      exact List.mem_cons_self ..
    · exact List.mem_cons_of_mem _ (ih h)

/-- The loop stops inside a segment, or at its end where a segment ends. -/
theorem segmentWalk_end (hpos : ∀ s ∈ list, 0 < s.dataSize mem) {offset rest : Nat}
    (h : segmentWalk mem list offset = some (seg, rest)) :
    rest < seg.dataSize mem ↔ ¬SegmentEnd mem list offset := by
  induction list generalizing offset with
  | nil => cases h
  | cons s list ih =>
    have hpos' : ∀ t ∈ list, 0 < t.dataSize mem := fun t ht => hpos t (List.mem_cons_of_mem _ ht)
    rw [segmentEnd_cons_iff hpos']
    rw [segmentWalk] at h
    split at h
    · obtain ⟨rfl, rfl⟩ := Prod.mk.inj (Option.some.inj h)
      constructor
      · rintro hlt (heq | ⟨hgt, -⟩) <;> omega
      · intro hend
        have hne : offset ≠ s.dataSize mem := fun heq => hend (.inl heq)
        omega
    · next hgt =>
      rw [ih hpos' h]
      constructor
      · rintro hnot (heq | ⟨-, hend⟩)
        · omega
        · exact hnot hend
      · exact fun hnot hend => hnot (.inr ⟨by omega, hend⟩)

/-- The submission for what the loop finds denotes the bytes from the offset on, unless
it is left at the end of the segment. -/
theorem segmentWindow_walk (hdistinct : (list.map SegmentHostinfo.dmaStart).Nodup)
    {offset rest : Nat} (h : segmentWalk mem list offset = some (seg, rest)) {e : BceQeSubmission}
    (haddr : e.addr = rest) (hsegl : e.seglAddr = seg.dmaStart)
    (hlength : e.seglLength = seg.pageCount * PAGE_SIZE) (before : Nat) :
    segmentWindow mem e list before =
      if rest < seg.dataSize mem then some (before + offset, e.length) else none := by
  induction list generalizing offset before with
  | nil => cases h
  | cons s list ih =>
    rw [List.map_cons, List.nodup_cons] at hdistinct
    rw [segmentWalk] at h
    rw [segmentWindow, hsegl]
    split at h
    · obtain ⟨rfl, rfl⟩ := Prod.mk.inj (Option.some.inj h)
      simp only [if_true, hlength, haddr, true_and]
    · have hne : s.dmaStart ≠ seg.dmaStart := by
        intro heq
        exact hdistinct.1 (heq ▸ List.mem_map_of_mem (segmentWalk_mem h))
      rw [if_neg hne, ih hdistinct.2 h,
        show before + s.dataSize mem + (offset - s.dataSize mem) = before + offset by omega]

/-! ## What is submitted -/

variable {buf : BceDmaBuffer} {element : BceQeSubmission} {offset length : Nat}

/-- For bytes of the buffer the function returns 0 and these bytes are submitted, the
same as for a buffer of this size that is one entry, and for an offset behind the buffer
it returns `-EINVAL`. -/
structure SubmitsWindow (mem : Memory) (element : BceQeSubmission) (buf : BceDmaBuffer)
    (offset length : Nat) : Prop where
  within : offset + length ≤ buf.size mem →
    (bceSetSubmissionBuf mem element buf offset length).1 = 0 ∧
      buf.window mem (bceSetSubmissionBuf mem element buf offset length).2 = some (offset, length)
  agrees : ∀ one : BceDmaBuffer, one.Mapped mem → one.seglistHostinfo = [] →
    one.size mem = buf.size mem → offset + length ≤ buf.size mem →
    one.window mem (bceSetSubmissionBuf mem element one offset length).2 =
      buf.window mem (bceSetSubmissionBuf mem element buf offset length).2
  behind : buf.size mem < offset →
    (bceSetSubmissionBuf mem element buf offset length).1 = -EINVAL

/-- One entry is not checked, and with segments the length has to be that of the first
entry, and the offset not the end of a segment. -/
def SubmitsRight (mem : Memory) (buf : BceDmaBuffer) (offset length : Nat) : Prop :=
  if buf.seglistHostinfo = [] then offset ≤ buf.size mem
  else offset + length ≤ buf.size mem →
    length = buf.sgl.length ∧ ¬SegmentEnd mem buf.seglistHostinfo offset

theorem window_of_entry (hmapped : buf.Mapped mem) (hlist : buf.seglistHostinfo = [])
    (hlength : 0 < length) (hfits : offset + length ≤ buf.size mem) :
    buf.window mem (bceSetSubmissionBuf mem element buf offset length).2 =
      some (offset, length) := by
  have hinside := hmapped.inside hlist
  rw [BceDmaBuffer.size, if_pos hlist] at hfits
  have haddr : (buf.sgl.dmaAddress + offset) % 2 ^ 64 = buf.sgl.dmaAddress + offset :=
    Nat.mod_eq_of_lt (by omega)
  rw [bceSetSubmissionBuf, if_pos hlist, BceDmaBuffer.window, if_pos hlist]
  simp only [haddr, Nat.le_add_right, and_self, if_true, Nat.add_sub_cancel_left]

theorem window_of_segments (hmapped : buf.Mapped mem) (hlist : buf.seglistHostinfo ≠ [])
    (hlength : 0 < length) (hfits : offset + length ≤ buf.size mem) :
    (bceSetSubmissionBuf mem element buf offset length).1 = 0 ∧
      (buf.window mem (bceSetSubmissionBuf mem element buf offset length).2 =
          some (offset, length) ↔
        length = buf.sgl.length ∧ ¬SegmentEnd mem buf.seglistHostinfo offset) := by
  rw [BceDmaBuffer.size, if_neg hlist] at hfits
  rw [bceSetSubmissionBuf, if_neg hlist]
  cases hwalk : segmentWalk mem buf.seglistHostinfo offset with
  | none =>
    rcases segmentWalk_eq_none_iff.mp hwalk with hnil | hgt
    · exact absurd hnil hlist
    · omega
  | some found =>
    obtain ⟨seg, rest⟩ := found
    refine ⟨rfl, ?_⟩
    rw [BceDmaBuffer.window, if_neg hlist,
      segmentWindow_walk hmapped.distinct hwalk rfl rfl rfl 0,
      ← segmentWalk_end hmapped.positive hwalk]
    split
    · next hlt => simp [hlt, eq_comm]
    · next hge => simp [hge]

theorem returns_of_entry (hlist : buf.seglistHostinfo = []) :
    (bceSetSubmissionBuf mem element buf offset length).1 = 0 := by
  rw [bceSetSubmissionBuf, if_pos hlist]

theorem behind_segments (hlist : buf.seglistHostinfo ≠ []) (hgt : buf.size mem < offset) :
    (bceSetSubmissionBuf mem element buf offset length).1 = -EINVAL := by
  rw [BceDmaBuffer.size, if_neg hlist] at hgt
  rw [bceSetSubmissionBuf, if_neg hlist, segmentWalk_eq_none_iff.mpr (.inr hgt)]

/-- Two segments of 4096 bytes each; the first entry of the scatterlist has 4096. -/
def twoSegments : BceDmaBuffer where
  sgl := ⟨0x10000, 4096⟩
  seglistHostinfo := [⟨0x1000, 1, 0x20000⟩, ⟨0x3000, 1, 0x30000⟩]

/-- The memory with the headers of these segments. -/
def twoSegmentsMem : Memory := fun a => if a = 0x1008 ∨ a = 0x3008 then 4096 else 0

theorem twoSegments_mapped : twoSegments.Mapped twoSegmentsMem where
  inside := nofun
  positive := by decide
  distinct := by decide

end BceDriver
