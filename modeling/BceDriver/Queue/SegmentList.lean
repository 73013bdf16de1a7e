import Mathlib.Algebra.Order.Ring.Nat
import Mathlib.Data.List.Induction
import Mathlib.Logic.Function.Basic

/-!
# Segment lists (`queue_dma.c`)

`bce_map_segment_list` describes a scatterlist to the device in a chain of segments,
each a header and an array of elements in physically contiguous pages.

- Memory is a map of 64-bit words, by the address they start at. A header is four
  words at the start of its first page, and an element two.
- `DmaEnv` has what the kernel decides: which pages the allocator returns, and what
  a mapping for the device gives.
- The lengths are 32 bits wide and there are less than 2³¹ of them, so that a sum of
  them does not overflow its word, and words are `Nat`.
- `readBack` is how a device reads the structure.

The loop never moves on from the first element of a segment, which is why only the
first page is ever taken: `bce_map_segment_list_iff`.
-/

namespace BceDriver

def PAGE_SIZE : Nat := 4096

/-- `DMA_MAPPING_ERROR`, all bits set -/
def DMA_MAPPING_ERROR : Nat := 0xFFFFFFFFFFFFFFFF

/-- `sizeof(struct bce_segment_list_header)` -/
def BCE_SEGMENT_LIST_HEADER_SIZE : Nat := 32

/-- `sizeof(struct bce_segment_list_element)` -/
def BCE_SEGMENT_LIST_ELEMENT_SIZE : Nat := 16

def BCE_ELEMENTS_PER_PAGE : Nat :=
  (PAGE_SIZE - BCE_SEGMENT_LIST_HEADER_SIZE) / BCE_SEGMENT_LIST_ELEMENT_SIZE

def BCE_ELEMENTS_PER_ADDITIONAL_PAGE : Nat := PAGE_SIZE / BCE_SEGMENT_LIST_ELEMENT_SIZE

/-! ## Data -/

/-- An entry of a mapped scatterlist, or an element of a segment. -/
structure SgEntry where
  dmaAddress : Nat
  length : Nat
deriving DecidableEq, Repr

/-- `struct bce_segment_list_element_hostinfo`; the list they form is a `List`. -/
structure SegmentHostinfo where
  pageStart : Nat
  pageCount : Nat
  dmaStart : Nat
deriving DecidableEq, Repr

/-- What the kernel decides. Pages are aligned, and none is returned twice: no page
is freed in between. -/
structure DmaEnv where
  /-- the pages `__get_free_page` returns, one call after the other -/
  freePage : Nat → Nat
  aligned : ∀ k, ∃ n, freePage k = PAGE_SIZE * (n + 1)
  fresh : Function.Injective freePage
  /-- `dma_map_single` of a start and a size; `none` for a mapping error -/
  dmaMapSingle : Nat → Nat → Option Nat

abbrev Memory : Type := Nat → Nat

/-- The addresses of the fields of a header. -/
def headerElementCount (header : Nat) : Nat := header
def headerDataSize (header : Nat) : Nat := header + 8
def headerNextSeglAddr (header : Nat) : Nat := header + 16
def headerNextSeglLength (header : Nat) : Nat := header + 24

/-- The element at an address. -/
def Memory.element (mem : Memory) (el : Nat) : SgEntry := ⟨mem el, mem (el + 8)⟩

/-! ## `bce_map_segment_list` -/

/-- The variables of the loop over the scatterlist. -/
structure SegmentLoop where
  mem : Memory
  /-- the pages taken so far -/
  pages : List Nat
  pptr : Nat
  header : Nat
  el : Nat
  elEnd : Nat
  /-- the nodes from `out` back to `out_root` -/
  outs : List SegmentHostinfo
  /-- the elements stored to: the number of the segment, and the address -/
  written : List (Nat × Nat)

/-- The loop before its first entry; the temporary header is never used. -/
def SegmentLoop.start (mem : Memory) : SegmentLoop where
  mem := mem
  pages := []
  pptr := 0
  header := 0
  el := 0
  elEnd := 0
  outs := []
  written := []

/-- The next page: it extends the segment if it is the next one in memory, and
starts a new segment if not. -/
def segmentPage (env : DmaEnv) (s : SegmentLoop) : SegmentLoop :=
  let ptr := env.freePage s.pages.length
  if s.pptr ≠ 0 ∧ ptr = s.pptr + PAGE_SIZE then
    { s with
      mem := Function.update s.mem (headerElementCount s.header)
        (s.mem (headerElementCount s.header) + BCE_ELEMENTS_PER_ADDITIONAL_PAGE)
      pages := s.pages ++ [ptr]
      pptr := ptr
      elEnd := s.elEnd + BCE_ELEMENTS_PER_ADDITIONAL_PAGE * BCE_SEGMENT_LIST_ELEMENT_SIZE
      outs := s.outs.modifyHead fun out => { out with pageCount := out.pageCount + 1 } }
  else
    let mem := Function.update s.mem (headerElementCount ptr) BCE_ELEMENTS_PER_PAGE
    let mem := Function.update mem (headerDataSize ptr) 0
    let mem := Function.update mem (headerNextSeglAddr ptr) 0
    let mem := Function.update mem (headerNextSeglLength ptr) 0
    let el := ptr + BCE_SEGMENT_LIST_HEADER_SIZE
    { s with
      mem
      pages := s.pages ++ [ptr]
      pptr := ptr
      header := ptr
      el
      elEnd := el + BCE_ELEMENTS_PER_PAGE * BCE_SEGMENT_LIST_ELEMENT_SIZE
      outs := ⟨ptr, 1, DMA_MAPPING_ERROR⟩ :: s.outs }

/-- The part of the body that stores an entry; `el` stays where it is. -/
def segmentStore (s : SegmentLoop) (sg : SgEntry) : SegmentLoop :=
  let mem := Function.update s.mem s.el sg.dmaAddress
  let mem := Function.update mem (s.el + 8) sg.length
  { s with
    mem := Function.update mem (headerDataSize s.header)
      (mem (headerDataSize s.header) + mem (s.el + 8))
    written := s.written ++ [(s.outs.length - 1, s.el)] }

/-- The body of the loop. -/
def segmentEntry (env : DmaEnv) (s : SegmentLoop) (sg : SgEntry) : SegmentLoop :=
  segmentStore (if s.elEnd ≤ s.el then segmentPage env s else s) sg

/-- What happened to a node when the list was taken apart. -/
inductive SegmentRelease where
  | dmaUnmapSingle (dmaStart size : Nat)
  | kfree (node : SegmentHostinfo)
deriving DecidableEq, Repr

def bceUnmapSegementList : List SegmentHostinfo → List SegmentRelease
  | [] => []
  | node :: list =>
    (if node.dmaStart ≠ DMA_MAPPING_ERROR then
      [.dmaUnmapSingle node.dmaStart (node.pageCount * PAGE_SIZE)] else []) ++
    .kfree node :: bceUnmapSegementList list

/-- The loop that maps the segments and links each to the one before, `pout`: the
memory, the nodes, and whether it reached the end. -/
def segmentMap (env : DmaEnv) :
    Option SegmentHostinfo → List SegmentHostinfo → Memory → Memory × List SegmentHostinfo × Bool
  | _, [], mem => (mem, [], true)
  | pout, out :: outs, mem =>
    match env.dmaMapSingle out.pageStart (out.pageCount * PAGE_SIZE) with
    | none => (mem, { out with dmaStart := DMA_MAPPING_ERROR } :: outs, false)
    | some dma =>
      let out := { out with dmaStart := dma }
      let mem := match pout with
        | none => mem
        | some pout =>
          Function.update (Function.update mem (headerNextSeglAddr pout.pageStart) dma)
            (headerNextSeglLength pout.pageStart) (out.pageCount * PAGE_SIZE)
      let rest := segmentMap env (some out) outs mem
      (rest.1, out :: rest.2.1, rest.2.2)

structure SegmentListResult where
  /-- what the function returns; `none` for `NULL` -/
  list : Option (List SegmentHostinfo)
  mem : Memory
  pages : List Nat
  written : List (Nat × Nat)
  released : List SegmentRelease

def bceMapSegmentList (env : DmaEnv) (pages : List SgEntry) (mem : Memory) : SegmentListResult :=
  let s := pages.foldl (segmentEntry env) (.start mem)
  let mapped := segmentMap env none s.outs.reverse s.mem
  if mapped.2.2 then
    { list := some mapped.2.1
      mem := mapped.1
      pages := s.pages
      written := s.written
      released := [] }
  else
    { list := none
      mem := mapped.1
      pages := s.pages
      written := s.written
      released := bceUnmapSegementList mapped.2.1 }

/-! ## Reading back -/

/-- At most `n` elements from an address on, until their lengths add up to `size`. -/
def readElements (mem : Memory) : Nat → Nat → Nat → List SgEntry
  | 0, _, _ => []
  | n + 1, el, size =>
    if size = 0 then []
    else mem.element el ::
      readElements mem n (el + BCE_SEGMENT_LIST_ELEMENT_SIZE) (size - (mem.element el).length)

/-- The segments from the one at `page` on; a device address is that of a mapping. -/
def readSegments (mem : Memory) (list : List SegmentHostinfo) : Nat → Nat → List SgEntry
  | 0, _ => []
  | fuel + 1, page =>
    readElements mem (mem (headerElementCount page)) (page + BCE_SEGMENT_LIST_HEADER_SIZE)
      (mem (headerDataSize page)) ++
    if mem (headerNextSeglAddr page) = 0 then [] else
      match list.find? fun seg => seg.dmaStart = mem (headerNextSeglAddr page) with
      | some seg => readSegments mem list fuel seg.pageStart
      | none => []

/-- The structure as a device reads it, from the first segment on. -/
def readBack (mem : Memory) (list : List SegmentHostinfo) : List SgEntry :=
  match list with
  | [] => []
  | seg :: _ => readSegments mem list list.length seg.pageStart

def totalLength (sg : List SgEntry) : Nat := (sg.map SgEntry.length).sum

/-- The structure describes the scatterlist. -/
structure SegmentListResult.Describes (r : SegmentListResult) (list : List SegmentHostinfo)
    (sg : List SgEntry) : Prop where
  readBack : readBack r.mem list = sg
  dataSize : (list.map fun seg => r.mem (headerDataSize seg.pageStart)).sum = totalLength sg
  inside : ∀ w ∈ r.written, ∃ seg, list[w.1]? = some seg ∧
    seg.pageStart + BCE_SEGMENT_LIST_HEADER_SIZE ≤ w.2 ∧
    w.2 + BCE_SEGMENT_LIST_ELEMENT_SIZE ≤ seg.pageStart + seg.pageCount * PAGE_SIZE
  capacity : ∀ seg ∈ list, r.mem (headerElementCount seg.pageStart) =
    (seg.pageCount * PAGE_SIZE - BCE_SEGMENT_LIST_HEADER_SIZE) / BCE_SEGMENT_LIST_ELEMENT_SIZE

/-! ## The loop -/

section Loop

variable {env : DmaEnv} {mem : Memory} {sg : List SgEntry} {s : SegmentLoop} {e : SgEntry}

/-- After the entries `sg` there is one segment of one page, whose first element is
the last entry; the rest of the page is as the allocator left it. -/
structure OneSegment (env : DmaEnv) (mem : Memory) (sg : List SgEntry) (s : SegmentLoop) :
    Prop where
  outs : s.outs = [⟨env.freePage 0, 1, DMA_MAPPING_ERROR⟩]
  header : s.header = env.freePage 0
  el : s.el = env.freePage 0 + BCE_SEGMENT_LIST_HEADER_SIZE
  room : s.el < s.elEnd
  elementCount : s.mem (headerElementCount s.header) = BCE_ELEMENTS_PER_PAGE
  dataSize : s.mem (headerDataSize s.header) = totalLength sg
  nextSeglAddr : s.mem (headerNextSeglAddr s.header) = 0
  first : ∀ e, sg.getLast? = some e → s.mem.element s.el = e
  rest : ∀ a, s.el + BCE_SEGMENT_LIST_ELEMENT_SIZE ≤ a → s.mem a = mem a
  written : ∀ w ∈ s.written, w = (0, s.el)

theorem totalLength_append (sg : List SgEntry) (e : SgEntry) :
    totalLength (sg ++ [e]) = totalLength sg + e.length := by
  simp [totalLength]

/-- The first entry takes the page. -/
theorem OneSegment.page (env : DmaEnv) (mem : Memory) :
    OneSegment env mem [] (segmentPage env (.start mem)) where
  outs := rfl
  header := rfl
  el := rfl
  room := by
    show env.freePage 0 + 32 < env.freePage 0 + 32 + 254 * 16
    omega
  elementCount := by
    simp [segmentPage, SegmentLoop.start, headerElementCount, headerDataSize, headerNextSeglAddr,
      headerNextSeglLength]
  dataSize := by
    simp [segmentPage, SegmentLoop.start, headerElementCount, headerDataSize, headerNextSeglAddr,
      headerNextSeglLength, totalLength]
  nextSeglAddr := by
    simp [segmentPage, SegmentLoop.start, headerElementCount, headerDataSize, headerNextSeglAddr,
      headerNextSeglLength]
  first := nofun
  rest a ha := by
    have hlt : env.freePage 0 + 48 ≤ a := ha
    simp only [segmentPage, SegmentLoop.start, headerElementCount, headerDataSize,
      headerNextSeglAddr, headerNextSeglLength, Function.update_apply, List.length_nil, ne_eq,
      not_true_eq_false, false_and, if_false]
    rw [if_neg (by omega), if_neg (by omega), if_neg (by omega), if_neg (by omega)]
  written := nofun

/-- What the store of an entry leaves at an address. -/
theorem segmentStore_mem (hel : s.el = s.header + BCE_SEGMENT_LIST_HEADER_SIZE) (a : Nat) :
    (segmentStore s e).mem a =
      if a = headerDataSize s.header then s.mem (headerDataSize s.header) + e.length
      else if a = s.el + 8 then e.length
      else if a = s.el then e.dmaAddress
      else s.mem a := by
  have hold : headerDataSize s.header ≠ s.el + 8 ∧ headerDataSize s.header ≠ s.el := by
    rw [hel]
    simp only [headerDataSize, BCE_SEGMENT_LIST_HEADER_SIZE]
    omega
  simp [segmentStore, Function.update_apply, hold.1, hold.2]

/-- Every entry is stored to the same element. -/
theorem OneSegment.store (h : OneSegment env mem sg s) (e : SgEntry) :
    OneSegment env mem (sg ++ [e]) (segmentStore s e) := by
  have hel : s.el = s.header + 32 := by
    rw [h.el, h.header]
    rfl
  have hmem := segmentStore_mem (s := s) (e := e) hel
  simp only [headerDataSize, hel] at hmem
  constructor
  · exact h.outs
  · exact h.header
  · exact h.el
  · exact h.room
  · show (segmentStore s e).mem s.header = _
    rw [hmem, if_neg (by omega), if_neg (by omega), if_neg (by omega)]
    exact h.elementCount
  · show (segmentStore s e).mem (s.header + 8) = _
    rw [hmem, if_pos rfl, totalLength_append, ← h.dataSize]
    rfl
  · show (segmentStore s e).mem (s.header + 16) = _
    rw [hmem, if_neg (by omega), if_neg (by omega), if_neg (by omega)]
    exact h.nextSeglAddr
  · intro e' he'
    obtain rfl : e = e' := by simpa using he'
    show Memory.element _ s.el = e
    rw [hel, Memory.element, hmem, hmem, if_neg (by omega), if_neg (by omega), if_pos rfl,
      if_neg (by omega), if_pos rfl]
  · intro a ha
    have hle : s.header + 48 ≤ a := by
      have hle : s.el + 16 ≤ a := ha
      omega
    rw [hmem, if_neg (by omega), if_neg (by omega), if_neg (by omega)]
    exact h.rest a ha
  · intro w hw
    obtain hw | hw := List.mem_append.mp hw
    · exact h.written w hw
    · obtain rfl := List.mem_singleton.mp hw
      rw [h.outs]
      rfl

/-- There is room left, so that no page is taken for a later entry. -/
theorem OneSegment.entry (h : OneSegment env mem sg s) (e : SgEntry) :
    OneSegment env mem (sg ++ [e]) (segmentEntry env s e) := by
  unfold segmentEntry
  rw [if_neg (Nat.not_le.mpr h.room)]
  exact h.store e

/-- **The loop over any scatterlist** fills one page, and there one element. -/
theorem OneSegment.loop (env : DmaEnv) (mem : Memory) (sg : List SgEntry) (hsg : sg ≠ []) :
    OneSegment env mem sg (sg.foldl (segmentEntry env) (.start mem)) := by
  induction sg using List.reverseRecOn with
  | nil => exact absurd rfl hsg
  | append_singleton sg e ih =>
    rw [List.foldl_append]
    by_cases hnil : sg = []
    · subst hnil
      exact (OneSegment.page env mem).store e
    · exact (ih hnil).entry e

end Loop

/-! ## Reading one segment -/

/-- Elements are read back as a list of positive lengths exactly if there are enough
of them and each is in its place. -/
theorem readElements_eq_iff (mem : Memory) (sg : List SgEntry) (hpos : ∀ e ∈ sg, 0 < e.length)
    (n el : Nat) : readElements mem n el (totalLength sg) = sg ↔
      sg.length ≤ n ∧ ∀ j e, sg[j]? = some e →
        mem.element (el + BCE_SEGMENT_LIST_ELEMENT_SIZE * j) = e := by
  induction sg generalizing n el with
  | nil => cases n <;> simp [readElements, totalLength]
  | cons e sg ih =>
    have he := hpos e List.mem_cons_self
    have htotal : totalLength (e :: sg) = e.length + totalLength sg := rfl
    cases n with
    | zero => simp [readElements]
    | succ n =>
      have hsize : totalLength (e :: sg) ≠ 0 := by omega
      have hnext : ∀ j, el + BCE_SEGMENT_LIST_ELEMENT_SIZE * (j + 1) =
          el + BCE_SEGMENT_LIST_ELEMENT_SIZE + BCE_SEGMENT_LIST_ELEMENT_SIZE * j := by
        intro j
        rw [Nat.mul_add_one]
        omega
      have hplaces : (∀ j e', (e :: sg)[j]? = some e' →
            mem.element (el + BCE_SEGMENT_LIST_ELEMENT_SIZE * j) = e') ↔
          mem.element el = e ∧ ∀ j e', sg[j]? = some e' → mem.element
            (el + BCE_SEGMENT_LIST_ELEMENT_SIZE + BCE_SEGMENT_LIST_ELEMENT_SIZE * j) = e' := by
        constructor
        · intro h
          refine ⟨h 0 e rfl, fun j e' he' => ?_⟩
          rw [← hnext]
          exact h (j + 1) e' he'
        · rintro ⟨hhead, hrest⟩ j e' he'
          cases j with
          | zero => exact hhead.trans (Option.some.inj he')
          | succ j =>
            rw [hnext]
            exact hrest j e' he'
      rw [readElements, if_neg hsize, List.cons.injEq, hplaces, List.length_cons,
        Nat.add_le_add_iff_right, ← and_assoc, and_comm (a := sg.length ≤ n), and_assoc]
      refine and_congr_right fun hhead => ?_
      rw [hhead, htotal, Nat.add_sub_cancel_left]
      exact ih (fun e' he' => hpos e' (List.mem_cons_of_mem _ he')) n _

/-! ## The result -/

/-- With every mapping made, the list is the one segment, and its header and elements
are as the loop left them. -/
theorem bceMapSegmentList_one {env : DmaEnv} (mem : Memory) {sg : List SgEntry} (hsg : sg ≠ [])
    (hmap : ∀ start size, (env.dmaMapSingle start size).isSome) :
    ∃ dma s, OneSegment env mem sg s ∧
      (bceMapSegmentList env sg mem).list = some [⟨env.freePage 0, 1, dma⟩] ∧
      (bceMapSegmentList env sg mem).mem = s.mem ∧
      (bceMapSegmentList env sg mem).written = s.written := by
  have hone := OneSegment.loop env mem sg hsg
  obtain ⟨dma, hdma⟩ := Option.isSome_iff_exists.mp (hmap (env.freePage 0) (1 * PAGE_SIZE))
  have hmapped : segmentMap env none (sg.foldl (segmentEntry env) (.start mem)).outs.reverse
      (sg.foldl (segmentEntry env) (.start mem)).mem =
      ((sg.foldl (segmentEntry env) (.start mem)).mem, [⟨env.freePage 0, 1, dma⟩], true) := by
    rw [hone.outs]
    simp only [List.reverse_singleton, segmentMap, hdma]
  refine ⟨dma, _, hone, ?_, ?_, ?_⟩ <;> simp only [bceMapSegmentList, hmapped, if_true]

/-- **Segment lists.** For a scatterlist of at least two entries, with every mapping
made, the structure describes the scatterlist exactly if the elements fit into the
one page, the first entry is the last one again, and the others happened to be in the
page the allocator returned. -/
theorem bce_map_segment_list_iff (env : DmaEnv) (mem : Memory) (sg : List SgEntry)
    (htwo : 2 ≤ sg.length) (hpos : ∀ e ∈ sg, 0 < e.length)
    (hmap : ∀ start size, (env.dmaMapSingle start size).isSome) :
    (∃ list, (bceMapSegmentList env sg mem).list = some list ∧
        (bceMapSegmentList env sg mem).Describes list sg) ↔
      sg.length ≤ BCE_ELEMENTS_PER_PAGE ∧ sg.head? = sg.getLast? ∧
      ∀ j e, 0 < j → sg[j]? = some e → mem.element (env.freePage 0 +
        BCE_SEGMENT_LIST_HEADER_SIZE + BCE_SEGMENT_LIST_ELEMENT_SIZE * j) = e := by
  have hsg : sg ≠ [] := by
    rintro rfl
    exact absurd htwo (by decide)
  obtain ⟨dma, s, hone, hlist, hmem, hwritten⟩ := bceMapSegmentList_one mem hsg hmap
  have hlen : 0 < sg.length := by omega
  have hlast : sg.getLast? = some (sg.getLast hsg) := List.getLast?_eq_some_getLast hsg
  have hfirst := hone.first _ hlast
  -- what is read is the one segment
  have hread : readBack (bceMapSegmentList env sg mem).mem [⟨env.freePage 0, 1, dma⟩] =
      readElements s.mem BCE_ELEMENTS_PER_PAGE s.el (totalLength sg) := by
    have hcount := hone.elementCount
    have hsize := hone.dataSize
    have hnext := hone.nextSeglAddr
    rw [hone.header] at hcount hsize hnext
    rw [hmem, readBack, List.length_singleton, readSegments, hcount, hsize, hnext, if_pos rfl,
      List.append_nil, hone.el]
  have hold : ∀ j, 0 < j → s.mem.element (s.el + BCE_SEGMENT_LIST_ELEMENT_SIZE * j) =
      mem.element (env.freePage 0 + BCE_SEGMENT_LIST_HEADER_SIZE +
        BCE_SEGMENT_LIST_ELEMENT_SIZE * j) := by
    intro j hj
    have hbehind : s.el + BCE_SEGMENT_LIST_ELEMENT_SIZE ≤
        s.el + BCE_SEGMENT_LIST_ELEMENT_SIZE * j :=
      Nat.add_le_add_left (Nat.le_mul_of_pos_right _ hj) _
    unfold Memory.element
    rw [hone.rest _ hbehind, hone.rest _ (Nat.le_add_right_of_le hbehind), hone.el]
  have hplaces : (∀ j e, sg[j]? = some e →
        s.mem.element (s.el + BCE_SEGMENT_LIST_ELEMENT_SIZE * j) = e) ↔
      sg.head? = sg.getLast? ∧ ∀ j e, 0 < j → sg[j]? = some e → mem.element (env.freePage 0 +
        BCE_SEGMENT_LIST_HEADER_SIZE + BCE_SEGMENT_LIST_ELEMENT_SIZE * j) = e := by
    rw [hlast, List.head?_eq_getElem?]
    constructor
    · intro h
      refine ⟨?_, fun j e hj he => (hold j hj).symm.trans (h j e he)⟩
      have hhead : sg[0]? = some sg[0] := List.getElem?_eq_getElem hlen
      rw [hhead, ← hfirst, ← h 0 _ hhead, Nat.mul_zero, Nat.add_zero]
    · rintro ⟨hhead, hrest⟩ j e he
      cases j with
      | zero =>
        rw [Nat.mul_zero, Nat.add_zero, hfirst]
        exact Option.some.inj (hhead.symm.trans he)
      | succ j => exact (hold (j + 1) j.succ_pos).trans (hrest (j + 1) e j.succ_pos he)
  rw [← hplaces, ← readElements_eq_iff s.mem sg hpos, ← hread]
  constructor
  · rintro ⟨list, hsome, hd⟩
    obtain rfl := Option.some.inj (hlist.symm.trans hsome)
    exact hd.readBack
  · intro hback
    refine ⟨_, hlist, ⟨hback, ?_, ?_, ?_⟩⟩
    · rw [hmem, List.map_singleton, List.sum_singleton, ← hone.header]
      exact hone.dataSize
    · intro w hw
      obtain rfl := hone.written w (hwritten ▸ hw)
      refine ⟨_, rfl, Nat.le_of_eq hone.el.symm, ?_⟩
      show s.el + 16 ≤ env.freePage 0 + 1 * 4096
      have hel : s.el = env.freePage 0 + 32 := hone.el
      omega
    · intro seg hseg
      obtain rfl := List.mem_singleton.mp hseg
      have hcapacity : BCE_ELEMENTS_PER_PAGE = (1 * PAGE_SIZE - BCE_SEGMENT_LIST_HEADER_SIZE) /
          BCE_SEGMENT_LIST_ELEMENT_SIZE := by decide
      rw [hmem, ← hone.header, hone.elementCount, hcapacity]

/-! ## Two entries -/

/-- A kernel that returns one page after the other, and maps them all. -/
def pageEnv : DmaEnv where
  freePage k := PAGE_SIZE * (k + 1)
  aligned k := ⟨k, rfl⟩
  fresh j k h := Nat.succ.inj (Nat.eq_of_mul_eq_mul_left (by decide) h)
  dmaMapSingle start _ := some (0x100000 + start)

def twoPages : List SgEntry := [⟨0x10000, 4096⟩, ⟨0x30000, 4096⟩]

/-- The first of two entries is lost. -/
theorem segment_list_of_two :
    ¬∃ list, (bceMapSegmentList pageEnv twoPages fun _ => 0).list = some list ∧
      (bceMapSegmentList pageEnv twoPages fun _ => 0).Describes list twoPages := by
  rintro ⟨list, hlist, hd⟩
  have hone : (bceMapSegmentList pageEnv twoPages fun _ => 0).list =
      some [⟨0x1000, 1, 0x101000⟩] := by decide +kernel
  obtain rfl := Option.some.inj (hone.symm.trans hlist)
  have hhead : (readBack (bceMapSegmentList pageEnv twoPages fun _ => 0).mem
      [⟨0x1000, 1, 0x101000⟩]).head? = some ⟨0x30000, 4096⟩ := by decide +kernel
  rw [hd.readBack] at hhead
  exact absurd hhead (by decide)

theorem bce_map_segment_list_iff_of_two :
    (∃ list, (bceMapSegmentList pageEnv twoPages fun _ => 0).list = some list ∧
        (bceMapSegmentList pageEnv twoPages fun _ => 0).Describes list twoPages) ↔
      twoPages.length ≤ BCE_ELEMENTS_PER_PAGE ∧ twoPages.head? = twoPages.getLast? ∧
      ∀ j e, 0 < j → twoPages[j]? = some e → Memory.element (fun _ => 0) (pageEnv.freePage 0 +
        BCE_SEGMENT_LIST_HEADER_SIZE + BCE_SEGMENT_LIST_ELEMENT_SIZE * j) = e :=
  bce_map_segment_list_iff pageEnv (fun _ => 0) twoPages (by decide) (by decide) fun _ _ => rfl

end BceDriver
