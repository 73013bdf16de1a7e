import BceDriver.Vhci.DataPhase
import BceDriver.Vhci.PauseResume

/-!
# Offsets stay within the buffer

What is sent of a URB is clamped to what is left of it. What the device reports as
received is added as it comes, and noted in the URB.

- `KeepsSizes`: what a step may do to the sizes noted in the `struct urb`s.
- `WithinBuffer`: no offset of a linked URB and no length noted in one the driver has
  exceeds its buffer.
- `ReportsWithin`: the device reports no more than is left.
- `offsets_within_buffer`: the runs whose steps all meet that; no other step breaks it.
-/

namespace BceDriver

open FaultState

/-- Neither offset exceeds the length of the URB, as `L` gives it. -/
def BceVhciUrb.Within (L : Nat → Nat) (v : BceVhciUrb) : Prop :=
  v.sendOffset ≤ L v.urb ∧ v.receiveOffset ≤ L v.urb

/-- The lengths of the `struct urb`s. -/
def BceVhciTransferQueue.lengths (q : BceVhciTransferQueue) (u : Nat) : Nat :=
  (q.urbs u).transferBufferLength

/-- No offset of a linked URB, and no length noted in one the driver has, exceeds its
buffer. -/
structure WithinBuffer (s : Endpoint) : Prop where
  offsets : ∀ u ∈ s.q.urbList, ∀ urb v, s.q.Has u urb v → v.Within s.q.lengths
  actual : ∀ u, s.Owns u → (s.q.urbs u).actualLength ≤ s.q.lengths u

/-- If the round hands a completion to a URB that waits for it, the count with it added
is within the buffer. -/
def LockOp.ReportsWithin (q : BceVhciTransferQueue) : LockOp → Prop
  | .completions d => ∀ c ∈ q.nextCompletion d, c.status ≠ BCE_COMPLETION_ABORTED →
      ∀ v ∈ q.headVurb, v.state = .waitingForCompletion →
        (v.receiveOffset + c.dataSize) % 2 ^ 32 ≤ q.lengths v.urb
  | _ => True

instance (q : BceVhciTransferQueue) : ∀ op, Decidable (LockOp.ReportsWithin q op)
  | .completions d => inferInstanceAs (Decidable (∀ c ∈ q.nextCompletion d, _))
  | .deliver | .event _ | .resume _ | .giveback | .back => .isTrue trivial

/-- The steps in which the device reports no more than is left of the buffer. -/
abbrev ReportsWithin : EndpointAction → Endpoint → Prop :=
  AtLockStep fun op q => op.ReportsWithin q

/-! ## Sizes -/

/-- No length changed, and every length noted in a URB is as before or within its
buffer. -/
structure KeepsSizes (q q' : BceVhciTransferQueue) : Prop where
  length : q'.lengths = q.lengths
  actual : ∀ u, (q'.urbs u).actualLength = (q.urbs u).actualLength ∨
    (q'.urbs u).actualLength ≤ q.lengths u

namespace KeepsSizes

variable {q q₁ q' : BceVhciTransferQueue} {urb u : Nat} {v : BceVhciUrb}

theorem of_urbs (h : q'.urbs = q.urbs) : KeepsSizes q q' where
  length := by
    unfold BceVhciTransferQueue.lengths
    rw [h]
  actual := fun u => .inl (by rw [h])

theorem refl (q : BceVhciTransferQueue) : KeepsSizes q q := of_urbs rfl

theorem trans (h : KeepsSizes q q₁) (h' : KeepsSizes q₁ q') : KeepsSizes q q' where
  length := h'.length.trans h.length
  actual := by
    intro u
    rcases h'.actual u with heq | hle
    · rw [heq]
      exact h.actual u
    · exact .inr (h.length ▸ hle)

/-- Nothing but the `struct urb`s matters. -/
theorem congr {p p' : BceVhciTransferQueue} (h : KeepsSizes q q') (hp : p.urbs = q.urbs)
    (hp' : p'.urbs = q'.urbs) : KeepsSizes p p' :=
  ((of_urbs hp.symm).trans h).trans (of_urbs hp')

/-- One URB is written to. -/
theorem setUrb {x : Urb} (hlen : x.transferBufferLength = q.lengths u)
    (hactual : x.actualLength = (q.urbs u).actualLength ∨ x.actualLength ≤ q.lengths u) :
    KeepsSizes q (q.setUrb u x) where
  length := by
    funext u'
    unfold BceVhciTransferQueue.lengths
    by_cases hu : u' = u
    · subst hu
      simpa [BceVhciTransferQueue.lengths] using hlen
    · simp [hu]
  actual := by
    intro u'
    by_cases hu : u' = u
    · subst hu
      simpa using hactual
    · exact .inl (by simp [hu])

theorem complete (q : BceVhciTransferQueue) (urb u : Nat) (status : Int) :
    KeepsSizes q (q.complete urb u status) :=
  (setUrb (q := q) (u := u) (x := { q.urbs u with hcpriv := none, status := status })
    rfl (.inl rfl)).congr rfl rfl

theorem settle (q : BceVhciTransferQueue) (urb u receivedStatus : Nat) :
    KeepsSizes q (q.settle urb u receivedStatus) := by
  unfold BceVhciTransferQueue.settle
  split
  · exact (complete q.stall urb u (-EPIPE)).congr rfl rfl
  · exact complete q urb u 0

theorem setActualLength {n : Nat} (hn : n ≤ q.lengths u) : KeepsSizes q (q.setActualLength u n) :=
  setUrb rfl (.inr hn)

theorem of_waited (h : Waited q q') : KeepsSizes q q' := of_urbs (by rw [h.frame])

theorem of_startedIn {timeout : Nat} (h : StartedIn timeout q urb v q') : KeepsSizes q q' :=
  of_urbs h.urbs

theorem of_update {msg : BceVhciMessage} {r : Int} (h : UpdateEffect q urb v msg r q') :
    KeepsSizes q q' := by
  cases h with
  | outSettled => exact (settle (q.setSq .toDevice _) urb v.urb v.receivedStatus).congr rfl rfl
  | settled => exact settle ..
  | _ => exact of_urbs rfl

theorem of_init {r : Int} (h : InitEffect q urb v r q') : KeepsSizes q q' := by
  cases h with
  | control => exact of_urbs rfl
  | out => exact of_urbs rfl
  | startedIn _ _ h => exact of_startedIn h
  | failed _ _ h => exact of_waited h.waited

theorem of_resume (h : ResumeEffect q urb v q') : KeepsSizes q q' := by
  cases h with
  | unchanged => exact refl q
  | init _ h => exact of_init h
  | restarted _ h => exact of_startedIn h
  | failed _ h => exact (of_waited h.waited).trans (complete ..)

/-- A completion notes what was received, if that ends the data phase. -/
theorem of_completion {c : BceSqCompletionData} (h : CompletionEffect q urb v c q')
    (hreport : v.state = .waitingForCompletion → v.received c ≤ q.lengths v.urb) :
    KeepsSizes q q' := by
  cases h with
  | ignored => exact refl q
  | progress => exact of_urbs rfl
  | dataDone _ hs => exact (setActualLength (hreport hs)).congr rfl rfl
  | done _ hs => exact (setActualLength (hreport hs)).trans (complete ..)
  | doneSettled _ hs => exact (setActualLength (hreport hs)).trans (settle ..)
  | settled => exact settle ..
  | startedIn _ _ _ h => exact of_startedIn h
  | startFailed _ _ _ h => exact (of_waited h.waited).trans (complete ..)
  | startedOut => exact of_urbs rfl

theorem of_deliver {more : Bool} (h : DeliverEffect q more q') : KeepsSizes q q' := by
  cases h with
  | idle => exact refl q
  | blocked _ _ h => exact of_update h
  | delivered _ _ h => exact (of_update h).congr rfl rfl

theorem of_event {msg : BceVhciMessage} (h : EventEffect q msg q') : KeepsSizes q q' := by
  cases h with
  | dropped => exact refl q
  | queued => exact of_urbs rfl
  | deferred _ _ h => exact (of_update h).congr rfl rfl
  | updated _ _ h => exact of_update h

theorem of_completionRound {d : DmaDataDirection} {more : Bool}
    (h : CompletionRoundEffect q d more q') (hreport : LockOp.ReportsWithin q (.completions d)) :
    KeepsSizes q q' := by
  cases h with
  | idle => exact refl q
  | skipped => exact of_urbs rfl
  | @completed t t' c sq u urb v q₁ ht hnext ha hhead heff ht' =>
    have hc := BceVhciTransferQueue.nextCompletion_eq ht hnext
    have hround : KeepsSizes (q.consume d t sq) q₁ := of_completion heff fun hs =>
      hreport c hc ha v hhead.headVurb hs
    exact hround.congr rfl rfl

/-- Linking a URB, or giving it up, notes no size in it. -/
theorem of_create {r : Int} (h : CreateEffect q u r q') : KeepsSizes q q' := by
  have hset : ∀ (q : BceVhciTransferQueue) (p : Option Nat) n e, KeepsSizes q
      (q.setUrb u { q.urbs u with hcpriv := p, unlinked := n, enqueue := e }) :=
    fun q p n e => setUrb rfl (.inl rfl)
  have hlink : KeepsSizes q (q.link u) := (hset q (some q.nextVurb) 0 q.nextVurb).congr rfl rfl
  cases h with
  | refused => exact (hset q none (q.urbs u).unlinked (q.urbs u).enqueue).congr rfl rfl
  | active _ h => exact hlink.trans (of_init h)
  | @failed r q₁ _ _ h =>
    have hdiscard : KeepsSizes q₁ (q₁.discard q.nextVurb u) :=
      (hset q₁ none (q₁.urbs u).unlinked (q₁.urbs u).enqueue).congr rfl rfl
    exact (hlink.trans (of_init h)).trans hdiscard
  | paused => exact hlink.congr rfl rfl

end KeepsSizes

/-! ## Offsets -/

section Offsets

variable {q q' : BceVhciTransferQueue} {urb u : Nat} {v : BceVhciUrb} {L : Nat → Nat}

open BceVhciUrb

theorem StartedIn.within {timeout : Nat} (h : StartedIn timeout q urb v q') (hw : v.Within L) :
    LeavesUrb (Within L) urb q q' :=
  .startedIn h ⟨hw.2, hw.2⟩

/-- What is left of the buffer does not wrap. -/
theorem outLength_eq (hlt : q.lengths v.urb < 2 ^ 32) (hsend : v.sendOffset ≤ q.lengths v.urb)
    (size : Nat) :
    outLength q v size = min (q.lengths v.urb - v.sendOffset) (size % 2 ^ 32) := by
  have hleft : (q.lengths v.urb + 2 ^ 32 - v.sendOffset) % 2 ^ 32 =
      q.lengths v.urb - v.sendOffset := by omega
  rw [← hleft]
  rfl

/-- A window ends within the buffer. -/
theorem sentOut_within (hlt : q.lengths v.urb < 2 ^ 32) (hw : v.Within q.lengths) (size : Nat) :
    (v.sentOut (outLength q v size)).Within q.lengths := by
  refine ⟨?_, hw.2⟩
  show (v.sendOffset + outLength q v size) % 2 ^ 32 ≤ q.lengths v.urb
  have hsend : v.sendOffset ≤ q.lengths v.urb := hw.1
  have hmod := Nat.mod_le (v.sendOffset + outLength q v size) (2 ^ 32)
  have hmin := outLength_eq hlt hsend size
  omega

theorem UpdateEffect.within {msg : BceVhciMessage} {r : Int} (hv : q.vurbs urb = some v)
    (h : UpdateEffect q urb v msg r q') (hlt : q.lengths v.urb < 2 ^ 32)
    (hw : v.Within q.lengths) : LeavesUrb (Within q.lengths) urb q q' := by
  cases h with
  | deferred | refused => exact .kept hv rfl hw
  | setup | status => exact .stored rfl hw
  | out => exact .stored rfl (sentOut_within hlt hw msg.param2)
  | outSettled | settled => exact .freed (settle_vurbs ..)

theorem InitEffect.within {r : Int} (hv : q.vurbs urb = some v) (h : InitEffect q urb v r q')
    (hw : v.Within L) : LeavesUrb (Within L) urb q q' := by
  cases h with
  | control | out => exact .stored rfl hw
  | startedIn _ _ h => exact h.within hw
  | failed _ _ h => exact .kept hv h.waited.vurbs hw

theorem ResumeEffect.within (hv : q.vurbs urb = some v) (h : ResumeEffect q urb v q')
    (hw : v.Within L) : LeavesUrb (Within L) urb q q' := by
  cases h with
  | unchanged => exact .kept hv rfl hw
  | init _ h => exact h.within hv hw
  | restarted _ h => exact h.within hw
  | failed _ h => exact .startFailed h ..

/-- A completion moves the offset to what is reported. -/
theorem CompletionEffect.within {c : BceSqCompletionData} (hv : q.vurbs urb = some v)
    (h : CompletionEffect q urb v c q') (hw : v.Within L)
    (hreport : v.state = .waitingForCompletion → v.received c ≤ L v.urb) :
    LeavesUrb (Within L) urb q q' := by
  cases h with
  | ignored => exact .kept hv rfl hw
  | progress hs => exact .stored rfl ⟨hw.1, hreport hs⟩
  | dataDone _ hs => exact .stored rfl ⟨hw.1, hreport hs⟩
  | done => exact .freed rfl
  | doneSettled | settled => exact .freed (settle_vurbs ..)
  | startedIn _ _ _ h => exact h.within hw
  | startFailed _ _ _ h => exact .startFailed h ..
  | startedOut => exact .stored rfl hw

/-- The offsets of the linked URBs are within their buffers. -/
abbrev OffsetsWithin (L : Nat → Nat) (q : BceVhciTransferQueue) : Prop :=
  EveryLinked (fun _ _ v => v.Within L) q

theorem UpdateEffect.offsetsWithin {msg : BceVhciMessage} {r : Int}
    (hup : UpdateEffect q urb v msg r q') (hnodup : q.urbList.Nodup)
    (hlt : ∀ u ∈ q.urbList, q.lengths u < 2 ^ 32) (h : OffsetsWithin q.lengths q)
    (hhead : q.Head u urb v) : OffsetsWithin q.lengths q' := by
  have hu := Head.mem hhead
  exact h.handler hnodup (hup.heap hhead.vurb)
    (hup.within hhead.vurb (hhead.urb_eq ▸ hlt u hu) (h u hu urb v hhead.toHas))

theorem CompletionRoundEffect.offsetsWithin {d : DmaDataDirection} {more : Bool}
    (hnodup : q.urbList.Nodup) (h : OffsetsWithin q.lengths q)
    (heff : CompletionRoundEffect q d more q')
    (hreport : LockOp.ReportsWithin q (.completions d)) : OffsetsWithin q.lengths q' := by
  refine h.completionRound id (fun {t c sq u urb v q₁} ht hnext ha hhead heff hcons => ?_) heff
  have hc := BceVhciTransferQueue.nextCompletion_eq ht hnext
  exact hcons.handler hnodup (heff.heap hhead.vurb)
    (heff.within hhead.vurb (h u (Head.mem hhead) urb v hhead.toHas)
      fun hs => hreport c hc ha v hhead.headVurb hs)

/-- A new URB was neither sent nor received. -/
theorem CreateEffect.offsetsWithin {r : Int} (h : OffsetsWithin L q)
    (heff : CreateEffect q u r q') : OffsetsWithin L q' := by
  have hfresh : (freshVurb q u).Within L := ⟨Nat.zero_le _, Nat.zero_le _⟩
  refine h.create hfresh (fun hlink q' r hi => ?_) heff
  have hv : (q.link u).vurbs q.nextVurb = some (freshVurb q u) := Function.update_self ..
  exact hlink.init (hi.heap hv) (hi.within hv hfresh)

end Offsets

/-! ## One step -/

section Steps

variable {s s' : Endpoint} {a : EndpointAction}

/-- The URBs on the list and those completed were on the list or completed before. -/
theorem mem_of_heap {q q' : BceVhciTransferQueue} {w : Nat}
    (h : SameHeap q q' ∨ ∃ u ∈ q.urbList, ∃ urb, Ended q urb u q')
    (hw : w ∈ q'.urbList ∨ w ∈ q'.givebackUrbList) : w ∈ q.urbList ∨ w ∈ q.givebackUrbList := by
  rcases h with h | ⟨u, hu, urb, h⟩
  · rwa [h.urbList, h.givebackUrbList] at hw
  · rw [h.urbList, h.givebackUrbList] at hw
    rcases hw with hw | hw
    · exact .inl (List.mem_of_mem_erase hw)
    · rcases List.mem_append.mp hw with hw | hw
      · exact .inr hw
      · exact .inl (List.mem_singleton.mp hw ▸ hu)

/-- A round leaves the driver with URBs it had. -/
theorem Endpoint.Owns.of_heap {q' : BceVhciTransferQueue} {lock : List LockOp} {w : Nat}
    (h : SameHeap s.q q' ∨ ∃ u ∈ s.q.urbList, ∃ urb, Ended s.q urb u q')
    (hw : ({ s with q := q', lock := lock } : Endpoint).Owns w) : s.Owns w := by
  rcases hw with hw | hw | hw
  · exact (mem_of_heap h (.inl hw)).imp_right .inl
  · exact (mem_of_heap h (.inr hw)).imp_right .inl
  · exact .inr (.inr hw)

theorem Endpoint.Owns.of_headHeap {q' : BceVhciTransferQueue} {lock : List LockOp} {w : Nat}
    (h : HeadHeap s.q q') (hw : ({ s with q := q', lock := lock } : Endpoint).Owns w) :
    s.Owns w :=
  .of_heap (h.imp_right fun ⟨u, urb, _, hhead, hended⟩ => ⟨u, Head.mem hhead, urb, hended⟩) hw

/-- The step enqueues the URB at `u`, which the driver may have afterwards. -/
structure Enqueues (s : Endpoint) (u : Nat) (request : UrbRequest) (s' : Endpoint) : Prop where
  notOwned : ¬s.Owns u
  supports : s.Supports request
  create : ∃ r, CreateEffect (s.q.fill u request) u r s'.q
  owns : ∀ w, s'.Owns w → w = u ∨ s.Owns w

/-- A step enqueues a URB, or keeps the sizes noted in those the driver has. -/
theorem StepEffect.sizes (h : StepEffect s a s') (hreport : ReportsWithin a s) :
    (∃ u request, Enqueues s u request s') ∨
      (KeepsSizes s.q s'.q ∧ ∀ w, s'.Owns w → s.Owns w) := by
  have hgive : ∀ u, KeepsSizes s.q (s.giveBack u).q := fun u =>
    .setUrb (x := { s.q.urbs u with hcpriv := none }) rfl (.inl rfl)
  cases h with
  | died => exact .inr ⟨.refl s.q, fun _ hw => hw⟩
  | quiet _ hq =>
    refine .inr ⟨.of_urbs hq.flags.urbs, fun w hw => ?_⟩
    unfold Endpoint.Owns at hw
    rw [hq.flags.heap.urbList, hq.flags.heap.givebackUrbList, hq.popped, hq.workHeld] at hw
    exact hw
  | @enqueued u request linked q' _ hu hsup heff =>
    refine .inl ⟨u, request, hu, hsup, ⟨0, heff⟩, fun w hw => ?_⟩
    have hheap := heff.linked
    unfold Endpoint.Owns at hw
    dsimp only at hw
    rw [hheap.urbList, hheap.givebackUrbList] at hw
    refine or_iff_not_imp_left.mpr fun hne => hw.imp_left fun hlist => ?_
    exact (List.mem_append.mp hlist).resolve_right (by simpa using hne)
  | @refused u request linked r q' _ hu hsup hr heff =>
    refine .inl ⟨u, request, hu, hsup, ⟨r, heff⟩, fun w hw => .inr ?_⟩
    obtain ⟨hothers, hlist⟩ := heff.others hr fun hmem => hu (.inl hmem)
    unfold Endpoint.Owns at hw
    dsimp only at hw
    rw [hlist, hothers.givebackUrbList] at hw
    exact hw
  | delivered _ heff => exact .inr ⟨.of_deliver heff, fun w => .of_headHeap heff.heap⟩
  | completed hops heff =>
    exact .inr ⟨.of_completionRound heff (hreport.head hops), fun w => .of_headHeap heff.heap⟩
  | event _ heff => exact .inr ⟨.of_event heff, fun w => .of_headHeap heff.heap⟩
  | @resumed u urb us v ops q' _ hu hhas heff =>
    refine .inr ⟨.of_resume heff, fun w => .of_heap ?_⟩
    exact (heff.heap hhas.vurb).imp_right fun hended => ⟨v.urb, hhas.urb_eq ▸ hu, urb, hended⟩
  | activated hops =>
    refine .inr ⟨.of_urbs rfl, fun w hw => ?_⟩
    unfold Endpoint.Owns at hw ⊢
    rw [hops]
    exact hw
  | @removed reply aborted u status ops hops _ hu =>
    refine .inr ⟨(KeepsSizes.setUrb (q := s.q) (u := u)
      (x := { s.q.urbs u with unlinked := status }) rfl (.inl rfl)).congr rfl rfl, fun w hw => ?_⟩
    unfold Endpoint.Owns at hw ⊢
    rw [hops]
    rcases hw with hw | hw | hw | hw
    · exact .inl (List.mem_of_mem_erase hw)
    · exact .inr (.inl hw)
    · exact .inr (.inr (.inl hw))
    · rcases List.mem_cons.mp hw with rfl | hw
      · exact .inl hu
      · exact .inr (.inr (.inr hw))
  | freed hops =>
    refine .inr ⟨.of_urbs rfl, fun w hw => ?_⟩
    unfold Endpoint.Owns at hw ⊢
    rw [hops]
    exact hw
  | @gaveRemoved reply aborted u ops hops =>
    refine .inr ⟨hgive u, fun w hw => ?_⟩
    unfold Endpoint.Owns at hw ⊢
    rw [hops]
    exact hw.imp_right (Or.imp_right (Or.imp_right (List.mem_cons_of_mem u)))
  | popped hg =>
    refine .inr ⟨.of_urbs rfl, fun w hw => ?_⟩
    unfold Endpoint.Owns at hw ⊢
    rw [hg]
    simp only [List.mem_append, List.mem_singleton] at hw
    simp only [List.mem_cons]
    tauto
  | gave =>
    exact .inr ⟨hgive _, fun w hw => hw.imp_right (Or.imp_right
      (Or.imp_left List.mem_of_mem_erase))⟩
  | device _ _ hheld =>
    refine .inr ⟨.of_urbs rfl, fun w hw => ?_⟩
    unfold Endpoint.Owns at hw ⊢
    dsimp only at hw
    rw [hheld] at hw
    exact hw

/-- The offsets stay within the lengths the buffers had. -/
theorem StepEffect.offsetsWithin (heff : StepEffect s a s') (hnodup : s.q.urbList.Nodup)
    (hlt : ∀ u ∈ s.q.urbList, s.q.lengths u < 2 ^ 32) (h : OffsetsWithin s.q.lengths s.q)
    (hreport : ReportsWithin a s) : OffsetsWithin s.q.lengths s'.q := by
  have hupdate : ∀ {u urb v msg r q₁}, s.q.Head u urb v → UpdateEffect s.q urb v msg r q₁ →
      OffsetsWithin s.q.lengths q₁ := fun hhead hup => hup.offsetsWithin hnodup hlt h hhead
  refine h.step heff (fun u request linked r q' _ _ _ hcreate hfill => hcreate.offsetsWithin hfill)
    (fun more q' hdel => h.deliver hupdate hdel) ?_ (fun msg q' hev => h.event hupdate hev) ?_
    (fun d t t' _ _ => h.of_sqs rfl rfl rfl fun _ _ hv => hv)
  · intro d ops more q' ha hops hround
    subst ha
    exact hround.offsetsWithin hnodup h (hreport.head hops)
  · intro u us ops urb v q' _ _ hu hhas hres
    exact h.handler hnodup (hres.heap hhas.vurb) (hres.within hhas.vurb (h u hu urb v hhas))

/-- The buffers of the URBs the driver has are `u32`s long, and nothing exceeds them. -/
structure SizesOk (s : Endpoint) : Prop extends WithinBuffer s where
  length : ∀ u, s.Owns u → s.q.lengths u < 2 ^ 32

/-- An enqueue notes nothing in the others, and starts with nothing sent. -/
theorem SizesOk.enqueue (h : SizesOk s) {u : Nat} {request : UrbRequest}
    (henq : Enqueues s u request s') : SizesOk s' := by
  obtain ⟨r, hcreate⟩ := henq.create
  have hsizes := KeepsSizes.of_create hcreate
  have hother : ∀ w, w ≠ u → (s.q.fill u request).urbs w = s.q.urbs w := by
    intro w hne
    simp [BceVhciTransferQueue.fill, hne]
  have hlengths : ∀ w, w ≠ u → (s.q.fill u request).lengths w = s.q.lengths w := fun w hne =>
    congrArg Urb.transferBufferLength (hother w hne)
  have hnew : (s.q.fill u request).lengths u = request.transferBufferLength ∧
      ((s.q.fill u request).urbs u).actualLength = 0 := by
    simp [BceVhciTransferQueue.fill, BceVhciTransferQueue.lengths]
  refine ⟨⟨?_, fun w hw => ?_⟩, fun w hw => ?_⟩
  · rw [hsizes.length]
    refine hcreate.offsetsWithin (EveryLinked.fill (fun w hw urb v hhas => ?_) u request)
    have hne : w ≠ u := by
      rintro rfl
      exact henq.notOwned (.inl hw)
    have hold := h.offsets w hw urb v hhas
    have hsame := hlengths v.urb (hhas.urb_eq ▸ hne)
    exact ⟨hsame ▸ hold.1, hsame ▸ hold.2⟩
  · rw [hsizes.length]
    rcases hsizes.actual w with hact | hact
    · rw [hact]
      by_cases hwu : w = u
      · subst hwu
        rw [hnew.2]
        exact Nat.zero_le _
      · rw [hother w hwu, hlengths w hwu]
        exact h.actual w ((henq.owns w hw).resolve_left hwu)
    · exact hact
  · rw [hsizes.length]
    by_cases hwu : w = u
    · subst hwu
      rw [hnew.1]
      exact henq.supports.2
    · rw [hlengths w hwu]
      exact h.length w ((henq.owns w hw).resolve_left hwu)

/-- **A step** in which the device reports no more than is left. -/
theorem SizesOk.step (howned : Owned s) (h : SizesOk s) (heff : StepEffect s a s')
    (hreport : ReportsWithin a s) : SizesOk s' := by
  rcases heff.sizes hreport with ⟨u, request, henq⟩ | ⟨hsizes, howns⟩
  · exact h.enqueue henq
  · have hoffsets := heff.offsetsWithin howned.urbList_nodup (fun u hu => h.length u (.inl hu))
      h.offsets hreport
    refine ⟨⟨?_, fun w hw => ?_⟩, fun w hw => ?_⟩
    · rw [hsizes.length]
      exact hoffsets
    · rw [hsizes.length]
      rcases hsizes.actual w with hact | hact
      · rw [hact]
        exact h.actual w (howns w hw)
      · exact hact
    · rw [hsizes.length]
      exact h.length w (howns w hw)

/-- A count that exceeds the buffer ends the data phase, and is noted in the URB. -/
theorem CompletionEffect.notes {q q' : BceVhciTransferQueue} {urb : Nat} {v : BceVhciUrb}
    {c : BceSqCompletionData} (h : CompletionEffect q urb v c q')
    (hs : v.state = .waitingForCompletion) (hmore : q.lengths v.urb < v.received c) :
    (q'.urbs v.urb).actualLength = v.received c ∧ q'.lengths v.urb = q.lengths v.urb := by
  have hdone : DataDone q v c := .inr hmore.le
  have hset : ((q.setActualLength v.urb (v.received c)).urbs v.urb).actualLength =
      v.received c := by
    simp [BceVhciTransferQueue.setActualLength]
  have hlength : (q.setActualLength v.urb (v.received c)).lengths v.urb = q.lengths v.urb := by
    simp [BceVhciTransferQueue.setActualLength, BceVhciTransferQueue.lengths]
  cases h with
  | ignored hne => exact absurd hs hne
  | progress _ hnot => exact absurd hdone hnot
  | dataDone => exact ⟨hset, hlength⟩
  | done =>
    refine ⟨?_, (congrFun (KeepsSizes.complete ..).length v.urb).trans hlength⟩
    simpa [BceVhciTransferQueue.complete] using hset
  | doneSettled =>
    refine ⟨?_, (congrFun (KeepsSizes.settle ..).length v.urb).trans hlength⟩
    rw [settle_actualLength, hset]
  | settled _ hw =>
    rcases hw with hw | ⟨-, hnot⟩
    · simp [hs] at hw
    · exact absurd hdone hnot
  | startedIn _ hw | startFailed _ hw | startedOut _ hw => simp [hs] at hw

/-- A completion that reports more is noted in a URB the driver has. -/
theorem CompletionRoundEffect.exceeds {q q' : BceVhciTransferQueue} {d : DmaDataDirection}
    {more : Bool} (h : CompletionRoundEffect q d more q')
    (hreport : ¬LockOp.ReportsWithin q (.completions d)) :
    ∃ u, (u ∈ q'.urbList ∨ u ∈ q'.givebackUrbList) ∧
      q'.lengths u < (q'.urbs u).actualLength := by
  unfold LockOp.ReportsWithin at hreport
  push Not at hreport
  obtain ⟨c, hc, habort, v, hv, hs, hmore⟩ := hreport
  have hmore : q.lengths v.urb < v.received c := hmore
  cases h with
  | idle ht hnext => simp [BceVhciTransferQueue.nextCompletion, ht, hnext] at hc
  | skipped ht hnext hskip =>
    obtain rfl := Option.some.inj ((BceVhciTransferQueue.nextCompletion_eq ht hnext).symm.trans hc)
    rcases hskip with hskip | hskip
    · exact absurd hskip habort
    · simp [BceVhciTransferQueue.headVurb, hskip] at hv
  | @completed t t' c' sq u urb v' q₁ ht hnext ha hhead heff ht' =>
    obtain rfl := Option.some.inj ((BceVhciTransferQueue.nextCompletion_eq ht hnext).symm.trans hc)
    obtain rfl := Option.some.inj (hhead.headVurb.symm.trans hv)
    obtain ⟨hactual, hlength⟩ := heff.notes hs hmore
    have hheap : SameHeap (q.consume d t sq) q₁ ∨ Ended (q.consume d t sq) urb v'.urb q₁ :=
      heff.heap hhead.vurb
    have hu : u ∈ q.urbList := Head.mem hhead
    rw [hhead.urb_eq] at hactual hlength hmore hheap
    refine ⟨u, ?_, ?_⟩
    · show u ∈ q₁.urbList ∨ u ∈ q₁.givebackUrbList
      rcases hheap with hsame | hended
      · exact .inl (hsame.urbList ▸ hu)
      · exact .inr (by simp [hended.givebackUrbList])
    · show q₁.lengths u < (q₁.urbs u).actualLength
      rw [hactual, hlength]
      exact hmore

/-- Only a completion round can report more. -/
theorem ReportsWithin.of_not (h : ¬ReportsWithin a s) :
    a = .lockStep ∧ ∃ d ops, s.lock = .completions d :: ops ∧
      ¬LockOp.ReportsWithin s.q (.completions d) := by
  cases a with
  | lockStep =>
    obtain ⟨op, hop, hnot⟩ : ∃ op ∈ s.lock.head?, ¬op.ReportsWithin s.q := by
      simpa [ReportsWithin, AtLockStep] using h
    obtain ⟨ops, hops⟩ := List.head?_eq_some_iff.mp hop
    cases op with
    | completions d => exact ⟨rfl, d, ops, hops, hnot⟩
    | _ => exact absurd trivial hnot
  | _ => exact absurd trivial h

/-- A step in which the device reports more breaks it, unless it dies. -/
theorem not_withinBuffer_of_step (howned : Owned s) (hstep : Endpoint.step a s = some s')
    (hreport : ¬ReportsWithin a s) : s'.fault = none → ¬WithinBuffer s' := by
  obtain ⟨rfl, d, ops, hops, hnot⟩ := ReportsWithin.of_not hreport
  obtain ⟨hf, hbranch⟩ := step_branch hstep
  cases hbranch with
  | lockStep hlock =>
    unfold Endpoint.lockStep at hlock
    rw [hops] at hlock
    obtain rfl := Option.some.inj hlock
    refine Endpoint.exec_elim (Q := fun s' => s'.fault = none → ¬WithinBuffer s')
      (completionRound_spec (E := (· = .nullDeref)) howned.live d (fun _ => rfl) fun _ _ _ _ => rfl)
      (fun more q' heff _ hwithin => ?_) (fun h => by simp at h)
    obtain ⟨u, hu, hmore⟩ := heff.exceeds hnot
    exact absurd (hwithin.actual u (hu.imp_right .inl)) (Nat.not_le.mpr hmore)

end Steps

/-! ## All runs -/

theorem reachable_sizesOk {s : Endpoint} (h : endpointSystem.Reachable ReportsWithin s) :
    SizesOk s := by
  refine StepSystem.Reachable.invariant (I := SizesOk) ?_ ?_ h
  · rintro s ⟨address, devAddr, qidIn, qidOut, urbs, m, w, rfl⟩
    refine ⟨⟨?_, ?_⟩, ?_⟩ <;> intro u hu <;>
      simp [Endpoint.Owns, Endpoint.start, Endpoint.workHeld, bceVhciCreateTransferQueue] at hu
  · exact fun a s s' hreach hsizes hguard hstep =>
      hsizes.step (reachable_owned hreach) (step_spec (reachable_owned hreach) hstep) hguard

/-- **Offsets stay within the buffer.** In the runs in which the device reports no more
than is left, neither offset of a linked URB and no length noted in one the driver has
exceeds its buffer, and what is left of it does not wrap. Every completion that reports
more breaks that. -/
theorem offsets_within_buffer {s : Endpoint} (h : endpointSystem.Reachable ReportsWithin s) :
    WithinBuffer s ∧
      (∀ u ∈ s.q.urbList, ∀ urb v, s.q.Has u urb v → ∀ size,
        outLength s.q v size = min (s.q.lengths u - v.sendOffset) (size % 2 ^ 32)) ∧
      ∀ a s', Endpoint.step a s = some s' → s'.fault = none →
        (WithinBuffer s' ↔ ReportsWithin a s) := by
  have howned := reachable_owned h
  have hsizes := reachable_sizesOk h
  refine ⟨hsizes.toWithinBuffer, fun u hu urb v hhas size => ?_, fun a s' hstep hfault => ?_⟩
  · obtain ⟨hsend, -⟩ := hsizes.offsets u hu urb v hhas
    have hlt := hsizes.length u (.inl hu)
    rw [← hhas.urb_eq] at hlt ⊢
    exact outLength_eq hlt hsend size
  · refine ⟨fun hwithin => ?_, fun hreport =>
      (hsizes.step howned (step_spec howned hstep) hreport).toWithinBuffer⟩
    by_contra hreport
    exact not_withinBuffer_of_step howned hstep hreport hfault hwithin

/-- A device-to-host URB of four bytes, for which the device reports `size` bytes. -/
def receiveRun (size : Nat) : List EndpointAction :=
  [.enqueue 0 ⟨true, 4, 0, 0⟩ 0, .lockStep, .complete .fromDevice ⟨BCE_COMPLETION_SUCCESS, size, 0⟩,
    .accept .fromDevice, .completion .fromDevice, .lockStep]

def receivedState : Endpoint :=
  endpointSystem.after ReportsWithin (receiveRun 4) (.fresh 0x81)

theorem offsets_within_buffer_of_a_run :
    receivedState.q.givebackUrbList = [0] ∧ (receivedState.q.urbs 0).status = 0 ∧
      (receivedState.q.urbs 0).actualLength ≤ receivedState.q.lengths 0 := by
  have hreach : endpointSystem.Reachable ReportsWithin receivedState :=
    .after (.of_init (Endpoint.fresh_init 0x81)) (by decide)
  exact ⟨by decide, by decide, (offsets_within_buffer hreach).1.actual 0 (.inr (.inl (by decide)))⟩

def exceededState : Endpoint :=
  endpointSystem.after (fun _ _ => True) (receiveRun 8) (.fresh 0x81)

/-- The URB is completed with status 0 and eight bytes in its four. -/
theorem received_exceeds_buffer :
    ¬∀ s, endpointSystem.Reachable (fun _ _ => True) s → ∀ u ∈ s.q.givebackUrbList,
      (s.q.urbs u).status = 0 →
        (s.q.urbs u).actualLength ≤ (s.q.urbs u).transferBufferLength := by
  intro h
  have hreach : endpointSystem.Reachable (fun _ _ => True) exceededState :=
    .after (.of_init (Endpoint.fresh_init 0x81)) (by decide)
  exact absurd (h exceededState hreach 0 (by decide) (by decide)) (by decide)

end BceDriver
