import BceDriver.Queue.SubmissionBuf

/-!
# Releasing segment lists (`queue_dma.c`)

`bce_map_segment_list` takes pages, allocates a node for each segment and maps the
segments one after the other. `bce_unmap_segement_list` takes the chain apart again:
after a failure, when only the first of them are mapped, or with the buffer.

- `segmentsAcquired` is what the call acquires, and `segmentsReleased` what is released
  by its failure path, or later with the buffer.
- `segmentMap_release`: of a chain of any length, mapped up to any segment, every node
  and every mapping is released once.
- `segment_list_released_iff`: the pages never are.
-/

namespace BceDriver

/-! ## `bce_map_dma_buffer` and `bce_unmap_dma_buffer` -/

/-- `struct bce_dma_buffer`, with its whole scatterlist. -/
structure BceMappedBuffer where
  scatterlist : List SgEntry
  /-- the list at `seglist_hostinfo`, empty for `NULL` -/
  seglistHostinfo : List SegmentHostinfo
deriving DecidableEq, Repr

inductive DmaRelease where
  | dmaUnmapSg (nents : Nat)
  | segment (r : SegmentRelease)
deriving DecidableEq, Repr

structure MapDmaBufferResult where
  status : Int
  buf : BceMappedBuffer
  mem : Memory
  released : List DmaRelease

/-- `dma_map_sg` returned `cnt`, and the entries are as it left them. -/
def bceMapDmaBuffer (env : DmaEnv) (cnt : Nat) (scatterlist : List SgEntry) (mem : Memory) :
    MapDmaBufferResult :=
  if cnt ≠ scatterlist.length then
    { status := - EIO
      buf := ⟨scatterlist, []⟩
      mem := mem
      released := [.dmaUnmapSg scatterlist.length] }
  else if cnt = 1 then
    { status := 0
      buf := ⟨scatterlist, []⟩
      mem := mem
      released := [] }
  else
    let r := bceMapSegmentList env scatterlist mem
    -- an empty list is `NULL`, too
    match r.list.getD [] with
    | [] =>
      { status := - EIO
        buf := ⟨scatterlist, []⟩
        mem := r.mem
        released := r.released.map .segment ++ [.dmaUnmapSg scatterlist.length] }
    | list =>
      { status := 0
        buf := ⟨scatterlist, list⟩
        mem := r.mem
        released := [] }

def bceUnmapDmaBuffer (buf : BceMappedBuffer) : List DmaRelease :=
  .dmaUnmapSg buf.scatterlist.length :: (bceUnmapSegementList buf.seglistHostinfo).map .segment

/-! ## What is acquired, and what is released -/

/-- What `bce_map_segment_list` acquires; a node is named by the page it is for. -/
inductive SegmentResource where
  | page (ptr : Nat)
  | hostinfo (pageStart : Nat)
  | mapping (dmaStart size : Nat)
deriving DecidableEq, Repr

def SegmentResource.isPage : SegmentResource → Bool
  | .page _ => true
  | .hostinfo _ | .mapping .. => false

def SegmentRelease.resource : SegmentRelease → SegmentResource
  | .dmaUnmapSingle dmaStart size => .mapping dmaStart size
  | .kfree node => .hostinfo node.pageStart

def SegmentHostinfo.resource (node : SegmentHostinfo) : SegmentResource :=
  .hostinfo node.pageStart

/-- The mappings that are made, up to the first that fails. -/
def segmentMappings (env : DmaEnv) : List SegmentHostinfo → List SegmentResource
  | [] => []
  | out :: outs =>
    match env.dmaMapSingle out.pageStart (out.pageCount * PAGE_SIZE) with
    | none => []
    | some dma => .mapping dma (out.pageCount * PAGE_SIZE) :: segmentMappings env outs

/-- Everything `bce_map_segment_list` acquires. -/
def segmentsAcquired (env : DmaEnv) (sg : List SgEntry) (mem : Memory) : List SegmentResource :=
  let s := sg.foldl (segmentEntry env) (.start mem)
  s.pages.map .page ++ (s.outs.reverse.map SegmentHostinfo.resource ++
    segmentMappings env s.outs.reverse)

/-- The releases that are about segments. -/
def segmentReleases (released : List DmaRelease) : List SegmentResource :=
  released.filterMap fun
    | .dmaUnmapSg _ => none
    | .segment r => some r.resource

/-- What is released of it: on the failure path, or with the buffer that has the list. -/
def segmentsReleased (env : DmaEnv) (sg : List SgEntry) (mem : Memory) : List SegmentResource :=
  let r := bceMapSegmentList env sg mem
  match r.list with
  | none => r.released.map SegmentRelease.resource
  | some list => segmentReleases (bceUnmapDmaBuffer ⟨sg, list⟩)

/-! ## A chain -/

section Chain

variable {env : DmaEnv} {outs : List SegmentHostinfo}

/-- The nodes that are not mapped. -/
def Unmapped (outs : List SegmentHostinfo) : Prop :=
  ∀ out ∈ outs, out.dmaStart = DMA_MAPPING_ERROR

/-- Of a chain without mappings the nodes are freed. -/
theorem Unmapped.release (h : Unmapped outs) :
    (bceUnmapSegementList outs).map SegmentRelease.resource =
      outs.map SegmentHostinfo.resource := by
  induction outs with
  | nil => rfl
  | cons out outs ih =>
    have hout : out.dmaStart = DMA_MAPPING_ERROR := h out List.mem_cons_self
    have hrest : Unmapped outs := fun out' hout' => h out' (List.mem_cons_of_mem out hout')
    simp only [bceUnmapSegementList, hout, ne_eq, not_true_eq_false, if_false, List.nil_append,
      List.map_cons, ih hrest]
    rfl

/-- **A chain of any length**, mapped up to any segment: every node is freed once, and
every mapping undone once. -/
theorem segmentMap_release
    (hmap : ∀ start size, env.dmaMapSingle start size ≠ some DMA_MAPPING_ERROR)
    (h : Unmapped outs) (pout : Option SegmentHostinfo) (mem : Memory) :
    ((bceUnmapSegementList (segmentMap env pout outs mem).2.1).map
      SegmentRelease.resource).Perm
        (outs.map SegmentHostinfo.resource ++ segmentMappings env outs) := by
  induction outs generalizing pout mem with
  | nil => exact .refl _
  | cons out outs ih =>
    have hrest : Unmapped outs := fun out' hout' => h out' (List.mem_cons_of_mem out hout')
    cases hdma : env.dmaMapSingle out.pageStart (out.pageCount * PAGE_SIZE) with
    | none =>
      -- the loop stops here, with the rest as it was
      have hnodes : Unmapped ({ out with dmaStart := DMA_MAPPING_ERROR } :: outs) := by
        intro out' hout'
        rcases List.mem_cons.mp hout' with rfl | hout'
        · rfl
        · exact hrest out' hout'
      simp only [segmentMap, segmentMappings, hdma, hnodes.release, List.append_nil]
      exact .refl _
    | some dma =>
      have hne : dma ≠ DMA_MAPPING_ERROR := fun heq => hmap _ _ (heq ▸ hdma)
      simp only [segmentMap, segmentMappings, hdma, bceUnmapSegementList, ne_eq, hne,
        not_false_eq_true, if_true, List.map_cons, List.cons_append, List.nil_append]
      refine .trans (.swap ..) (.cons _ ?_)
      exact ((ih hrest _ _).cons _).trans List.perm_middle.symm

/-- Nodes and mappings are no pages. -/
theorem isPage_of_mem_chain {r : SegmentResource}
    (hr : r ∈ outs.map SegmentHostinfo.resource ++ segmentMappings env outs) :
    r.isPage = false := by
  rcases List.mem_append.mp hr with hr | hr
  · obtain ⟨out, -, rfl⟩ := List.mem_map.mp hr
    rfl
  · induction outs with
    | nil => cases hr
    | cons out outs ih =>
      unfold segmentMappings at hr
      split at hr
      · cases hr
      · rcases List.mem_cons.mp hr with rfl | hr
        · rfl
        · exact ih (List.mem_append_right _ hr) hr

end Chain

/-! ## The loop -/

section Loop

variable {env : DmaEnv} {s : SegmentLoop}

/-- No node is mapped while the scatterlist is read. -/
theorem Unmapped.page (h : Unmapped s.outs) : Unmapped (segmentPage env s).outs := by
  unfold segmentPage
  dsimp only
  split
  · cases houts : s.outs with
    | nil => simp [Unmapped]
    | cons out outs =>
      rw [houts] at h
      intro out' hout'
      rcases List.mem_cons.mp hout' with rfl | hout'
      · exact h out List.mem_cons_self
      · exact h out' (List.mem_cons_of_mem out hout')
  · intro out hout
    rcases List.mem_cons.mp hout with rfl | hout
    · rfl
    · exact h out hout

theorem Unmapped.entry (h : Unmapped s.outs) (e : SgEntry) :
    Unmapped (segmentEntry env s e).outs := by
  unfold segmentEntry
  split
  · exact h.page
  · exact h

theorem Unmapped.loop (h : Unmapped s.outs) (sg : List SgEntry) :
    Unmapped (sg.foldl (segmentEntry env) s).outs := by
  induction sg generalizing s with
  | nil => exact h
  | cons e sg ih => exact ih (h.entry e)

/-- A page that is taken stays taken. -/
theorem segmentEntry_pages (env : DmaEnv) (s : SegmentLoop) (e : SgEntry) :
    s.pages <+: (segmentEntry env s e).pages := by
  unfold segmentEntry
  split
  · show s.pages <+: (segmentPage env s).pages
    unfold segmentPage
    dsimp only
    split <;> exact List.prefix_append ..
  · exact List.prefix_rfl

theorem segmentLoop_pages (env : DmaEnv) (s : SegmentLoop) (sg : List SgEntry) :
    s.pages <+: (sg.foldl (segmentEntry env) s).pages := by
  induction sg generalizing s with
  | nil => exact List.prefix_rfl
  | cons e sg ih => exact (segmentEntry_pages env s e).trans (ih _)

/-- The first entry takes a page. -/
theorem segmentLoop_pages_eq_nil (env : DmaEnv) (mem : Memory) (sg : List SgEntry) :
    (sg.foldl (segmentEntry env) (.start mem)).pages = [] ↔ sg = [] := by
  constructor
  · intro h
    cases sg with
    | nil => rfl
    | cons e sg =>
      have hfirst : (segmentEntry env (.start mem) e).pages = [env.freePage 0] := rfl
      have hprefix := segmentLoop_pages env (segmentEntry env (.start mem) e) sg
      rw [hfirst] at hprefix
      exact absurd (List.prefix_nil.mp (h ▸ hprefix)) (by simp)
  · rintro rfl
    rfl

end Loop

/-! ## The whole list -/

section List

variable {env : DmaEnv} {mem : Memory} {sg : List SgEntry}

theorem segmentReleases_map (released : List SegmentRelease) :
    segmentReleases (released.map .segment) = released.map SegmentRelease.resource := by
  unfold segmentReleases
  rw [List.filterMap_map]
  exact congrFun List.filterMap_eq_map' released

theorem segmentReleases_unmap (buf : BceMappedBuffer) :
    segmentReleases (bceUnmapDmaBuffer buf) =
      (bceUnmapSegementList buf.seglistHostinfo).map SegmentRelease.resource :=
  segmentReleases_map _

/-- Either way the chain is taken apart as it was left. -/
theorem segmentsReleased_eq (env : DmaEnv) (sg : List SgEntry) (mem : Memory) :
    segmentsReleased env sg mem =
      (bceUnmapSegementList (segmentMap env none
        (sg.foldl (segmentEntry env) (.start mem)).outs.reverse
        (sg.foldl (segmentEntry env) (.start mem)).mem).2.1).map SegmentRelease.resource := by
  unfold segmentsReleased bceMapSegmentList
  dsimp only
  by_cases hmapped : (segmentMap env none
      (sg.foldl (segmentEntry env) (.start mem)).outs.reverse
      (sg.foldl (segmentEntry env) (.start mem)).mem).2.2 = true
  · simp only [if_pos hmapped, segmentReleases_unmap]
  · simp only [if_neg hmapped]

/-- The pages are among what is acquired, unless there is nothing to describe. -/
theorem segmentsAcquired_isPage (env : DmaEnv) (sg : List SgEntry) (mem : Memory) :
    (∀ r ∈ segmentsAcquired env sg mem, r.isPage = false) ↔ sg = [] := by
  rw [← segmentLoop_pages_eq_nil env mem sg]
  constructor
  · intro h
    by_contra hne
    obtain ⟨ptr, hptr⟩ := List.exists_mem_of_ne_nil _ hne
    have hpage := h (.page ptr) (List.mem_append_left _ (List.mem_map_of_mem hptr))
    simp [SegmentResource.isPage] at hpage
  · intro hnil r hr
    rw [segmentsAcquired, hnil] at hr
    exact isPage_of_mem_chain hr

/-- Every node and every mapping is released once. -/
theorem segmentsReleased_perm
    (hmap : ∀ start size, env.dmaMapSingle start size ≠ some DMA_MAPPING_ERROR)
    (sg : List SgEntry) (mem : Memory) :
    (segmentsReleased env sg mem).Perm
      ((segmentsAcquired env sg mem).filter fun r => !r.isPage) := by
  have hnodes : Unmapped (sg.foldl (segmentEntry env) (.start mem)).outs.reverse := by
    intro out hout
    exact Unmapped.loop (s := .start mem) (by simp [Unmapped, SegmentLoop.start]) sg out
      (List.mem_reverse.mp hout)
  have hpages : ∀ pages : List Nat,
      (pages.map SegmentResource.page).filter (fun r => !r.isPage) = [] := by
    simp [SegmentResource.isPage]
  have hchain : ∀ outs : List SegmentHostinfo,
      (outs.map SegmentHostinfo.resource ++ segmentMappings env outs).filter
        (fun r => !r.isPage) = outs.map SegmentHostinfo.resource ++ segmentMappings env outs :=
    fun outs => List.filter_eq_self.mpr fun r hr => by simp [isPage_of_mem_chain hr]
  rw [segmentsReleased_eq, segmentsAcquired, List.filter_append, hpages, hchain,
    List.nil_append]
  exact segmentMap_release hmap hnodes none _

theorem segmentsReleased_perm_iff
    (hmap : ∀ start size, env.dmaMapSingle start size ≠ some DMA_MAPPING_ERROR)
    (sg : List SgEntry) (mem : Memory) :
    (segmentsReleased env sg mem).Perm (segmentsAcquired env sg mem) ↔ sg = [] := by
  have hperm := segmentsReleased_perm hmap sg mem
  rw [← segmentsAcquired_isPage env sg mem]
  constructor
  · intro hall r hr
    -- nothing is left out, so that no page is there
    have hlength := (hperm.symm.trans hall).length_eq
    have hkeep := List.length_filter_eq_length_iff.mp hlength r hr
    simpa using hkeep
  · intro hnone
    have hkeep : (segmentsAcquired env sg mem).filter (fun r => !r.isPage) =
        segmentsAcquired env sg mem :=
      List.filter_eq_self.mpr fun r hr => by simp [hnone r hr]
    rwa [hkeep] at hperm

/-- **Releasing a segment list.** Whatever the scatterlist, the pages and the mapping
that fails: of what was acquired every node and every mapping is released once, and
nothing else. With the pages that is everything only for an empty scatterlist. -/
theorem segment_list_released_iff (env : DmaEnv)
    (hmap : ∀ start size, env.dmaMapSingle start size ≠ some DMA_MAPPING_ERROR)
    (sg : List SgEntry) (mem : Memory) :
    (segmentsReleased env sg mem).Perm
        ((segmentsAcquired env sg mem).filter fun r => !r.isPage) ∧
      ((segmentsReleased env sg mem).Perm (segmentsAcquired env sg mem) ↔ sg = []) :=
  ⟨segmentsReleased_perm hmap sg mem, segmentsReleased_perm_iff hmap sg mem⟩

/-- Pages one after the other, mapped for the device where they are. -/
def identityEnv : DmaEnv := { pageEnv with dmaMapSingle := fun start _ => some (start % 2 ^ 32) }

theorem identityEnv_maps (start size : Nat) :
    identityEnv.dmaMapSingle start size ≠ some DMA_MAPPING_ERROR := by
  intro h
  have hlt : start % 2 ^ 32 < 2 ^ 32 := Nat.mod_lt _ (by decide)
  have heq : start % 2 ^ 32 = 0xFFFFFFFFFFFFFFFF := Option.some.inj h
  omega

theorem segment_list_released_iff_of_two :
    (segmentsReleased identityEnv twoPages fun _ => 0).Perm
        ((segmentsAcquired identityEnv twoPages fun _ => 0).filter fun r => !r.isPage) ∧
      ((segmentsReleased identityEnv twoPages fun _ => 0).Perm
        (segmentsAcquired identityEnv twoPages fun _ => 0) ↔ twoPages = []) :=
  segment_list_released_iff identityEnv identityEnv_maps twoPages fun _ => 0

/-- The page of the segment is never freed. -/
theorem segment_page_not_released :
    ¬∀ (env : DmaEnv) (sg : List SgEntry) (mem : Memory),
      (∀ start size, env.dmaMapSingle start size ≠ some DMA_MAPPING_ERROR) →
        (segmentsReleased env sg mem).Perm (segmentsAcquired env sg mem) := by
  intro h
  have hperm := h identityEnv twoPages (fun _ => 0) identityEnv_maps
  have hpage : SegmentResource.page 0x1000 ∈ segmentsAcquired identityEnv twoPages fun _ => 0 := by
    decide +kernel
  have hnot : SegmentResource.page 0x1000 ∉ segmentsReleased identityEnv twoPages fun _ => 0 := by
    decide +kernel
  exact hnot (hperm.mem_iff.mpr hpage)

end List

/-! ## Buffers -/

/-- What a buffer's mapping acquires for segments, if it comes to that. -/
def bufferAcquired (env : DmaEnv) (cnt : Nat) (sg : List SgEntry) (mem : Memory) :
    List SegmentResource :=
  if cnt = sg.length ∧ cnt ≠ 1 then segmentsAcquired env sg mem else []

/-- What is released of that, by the call or later with the buffer. -/
def bufferReleased (env : DmaEnv) (cnt : Nat) (sg : List SgEntry) (mem : Memory) :
    List SegmentResource :=
  let r := bceMapDmaBuffer env cnt sg mem
  segmentReleases (r.released ++ if r.status = 0 then bceUnmapDmaBuffer r.buf else [])

/-- A call that returns a list has released nothing. -/
theorem bceMapSegmentList_released {env : DmaEnv} {sg : List SgEntry} {mem : Memory}
    {list : List SegmentHostinfo} (h : (bceMapSegmentList env sg mem).list = some list) :
    (bceMapSegmentList env sg mem).released = [] := by
  unfold bceMapSegmentList at h ⊢
  dsimp only at h ⊢
  split at h <;> simp_all

/-- A buffer with a segment list releases what the list does. -/
theorem bufferReleased_eq {env : DmaEnv} {cnt : Nat} {sg : List SgEntry} (mem : Memory)
    (hcnt : cnt = sg.length) (hone : cnt ≠ 1) :
    bufferReleased env cnt sg mem = segmentsReleased env sg mem := by
  have hnot : ¬cnt ≠ sg.length := fun hne => hne hcnt
  unfold bufferReleased bceMapDmaBuffer segmentsReleased
  rw [if_neg hnot, if_neg hone]
  dsimp only
  cases hlist : (bceMapSegmentList env sg mem).list with
  | none =>
    have hfails : ¬(- EIO = 0) := by decide
    simp only [Option.getD_none, if_neg hfails, List.append_nil]
    exact (List.filterMap_append ..).trans
      ((List.append_nil _).trans (segmentReleases_map _))
  | some list =>
    have hnone := bceMapSegmentList_released hlist
    cases list with
    | nil => simp [segmentReleases, EIO, hnone, bceUnmapDmaBuffer, bceUnmapSegementList]
    | cons seg list => simp

/-- **Buffers.** Mapping and unmapping a buffer leaks exactly if it has two entries or
more and the scatterlist could be mapped. -/
theorem buffer_released_iff (env : DmaEnv)
    (hmap : ∀ start size, env.dmaMapSingle start size ≠ some DMA_MAPPING_ERROR)
    (cnt : Nat) (sg : List SgEntry) (mem : Memory) :
    (bufferReleased env cnt sg mem).Perm (bufferAcquired env cnt sg mem) ↔
      cnt ≠ sg.length ∨ cnt ≤ 1 := by
  by_cases hcnt : cnt = sg.length
  · by_cases hone : cnt = 1
    · have hnone : bufferReleased env cnt sg mem = [] := by
        simp [bufferReleased, bceMapDmaBuffer, ← hcnt, hone, segmentReleases_unmap,
          bceUnmapSegementList]
      rw [hnone]
      simp [bufferAcquired, hone]
    · rw [bufferReleased_eq mem hcnt hone, bufferAcquired, if_pos ⟨hcnt, hone⟩,
        segmentsReleased_perm_iff hmap sg mem, ← List.length_eq_zero_iff]
      omega
  · have hnone : bufferReleased env cnt sg mem = [] := by
      simp [bufferReleased, bceMapDmaBuffer, hcnt, segmentReleases, EIO]
    simp [bufferAcquired, hcnt, hnone]

end BceDriver
