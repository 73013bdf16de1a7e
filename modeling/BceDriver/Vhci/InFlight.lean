import BceDriver.Vhci.Linked

/-!
# The elements a URB has in flight

- `Old`: an element belongs to an enqueue that has happened; so a new enqueue
  starts with none.
- `dataInFlight`: how many data elements of an enqueue the device has.
-/

namespace BceDriver

/-! ## Elements belong to enqueues -/

/-- The elements of a queue the driver has not consumed the completion of. -/
def TransferSq.known (t : TransferSq) : List TransferElement :=
  t.inflight ++ t.posted.map Prod.fst ++ t.pending.map Prod.fst

/-- Every element belongs to an enqueue that has happened. -/
def Old (q : BceVhciTransferQueue) : Prop :=
  ∀ d t, q.sqs d = some t → ∀ e ∈ t.known, e.owner < q.nextVurb

section Old

variable {q q' : BceVhciTransferQueue} {t t' : TransferSq} {d : DmaDataDirection}

theorem TransferSq.Added.known {es : List TransferElement} (h : t.Added es t')
    {e : TransferElement} (he : e ∈ t'.known) : e ∈ t.known ∨ e ∈ es := by
  unfold TransferSq.known at he ⊢
  rw [h.inflight, h.posted, h.pending] at he
  simp only [List.mem_append] at he ⊢
  tauto

/-- The device moves elements about, and makes none. -/
theorem DeviceEffect.known (h : DeviceEffect t t') {e : TransferElement} (he : e ∈ t'.known) :
    e ∈ t.known := by
  unfold TransferSq.known at he ⊢
  cases h with
  | complete c hin =>
    rw [hin]
    simp only [List.map_append, List.map_cons, List.map_nil, List.mem_append, List.mem_cons,
      List.not_mem_nil] at he ⊢
    tauto
  | abort k =>
    have hsplit : ∀ e, e ∈ t.inflight ↔ e ∈ t.inflight.take k ∨ e ∈ t.inflight.drop k := by
      intro e
      rw [← List.mem_append, List.take_append_drop]
    simp only [TransferSq.abort, List.map_append, List.map_map, List.mem_append] at he ⊢
    rw [hsplit e]
    have hfst : (Prod.fst ∘ fun e : TransferElement =>
        (e, (⟨BCE_COMPLETION_ABORTED, 0, 0⟩ : BceSqCompletionData))) = id := rfl
    rw [hfst, List.map_id] at he
    tauto
  | accept hposted =>
    rw [hposted]
    simp only [List.map_append, List.map_cons, List.map_nil, List.mem_append, List.mem_cons,
      List.not_mem_nil] at he ⊢
    tauto

theorem Old.adds {P : DmaDataDirection → TransferElement → Prop} (h : Old q)
    (hadds : Adds P q q') (hn : q.nextVurb ≤ q'.nextVurb)
    (hP : ∀ d e, P d e → e.owner < q'.nextVurb) : Old q' := by
  intro d t' ht' e he
  cases ht : q.sqs d with
  | none => simp [hadds.none_iff.mpr ht] at ht'
  | some t =>
    obtain ⟨t'', es, ht'', hadd, hes⟩ := hadds.some ht
    obtain rfl := Option.some.inj (ht'.symm.trans ht'')
    rcases hadd.known he with hmem | hmem
    · exact Nat.lt_of_lt_of_le (h d t ht e hmem) hn
    · exact hP d e (hes e hmem)

theorem Old.setSq (h : Old q) (ht : q.sqs d = some t) (hmem : ∀ e ∈ t'.known, e ∈ t.known) :
    Old (q.setSq d t') := by
  intro d' t₁ ht₁ e he
  by_cases hd : d' = d
  · subst hd
    obtain rfl : t' = t₁ := by simpa using ht₁
    exact h d' t ht e (hmem e he)
  · exact h d' t₁ (by simpa [hd] using ht₁) e he

theorem TransferSq.known_consume (sq : BceQueueSq) {e : TransferElement}
    (he : e ∈ ({ t with sq := sq, pending := t.pending.tail } : TransferSq).known) :
    e ∈ t.known := by
  unfold TransferSq.known at he ⊢
  simp only [List.mem_append, List.map_tail] at he ⊢
  rcases he with he | he
  · exact .inl he
  · exact .inr (List.mem_of_mem_tail he)

theorem HeadHeap.nextVurb (h : HeadHeap q q') : q'.nextVurb = q.nextVurb := by
  rcases h with h | ⟨u, urb, v, -, h⟩
  · exact h.nextVurb
  · exact h.nextVurb

/-- The `bce_vhci_urb` of a linked URB is the name of an enqueue that has happened. -/
theorem Owned.urb_lt {s : Endpoint} (h : Owned s) {u urb : Nat} {v : BceVhciUrb}
    (hu : u ∈ s.q.urbList) (hhas : s.q.Has u urb v) : urb < s.q.nextVurb := by
  rw [h.urb_eq hu hhas]
  exact h.old _ (h.accepted_of_held (Endpoint.mem_held.mpr (.inl hu)))

theorem CreateEffect.nextVurb {u : Nat} {r : Int} (h : CreateEffect q u r q') :
    q'.nextVurb = q.nextVurb + 1 := by
  have hv : (q.link u).vurbs q.nextVurb = some (freshVurb q u) := Function.update_self ..
  cases h with
  | refused => rfl
  | active _ h => exact (h.heap hv).nextVurb
  | failed _ _ h => exact (h.heap hv).nextVurb
  | paused => rfl

/-- **Every element belongs to an enqueue that has happened**, in every run. -/
theorem reachable_old {G : EndpointAction → Endpoint → Prop} {s : Endpoint}
    (h : endpointSystem.Reachable G s) : Old s.q := by
  refine StepSystem.Reachable.invariant (I := fun s => Old s.q) ?_ ?_ h
  · rintro s ⟨address, devAddr, qidIn, qidOut, urbs, m, w, rfl⟩ d t ht e he
    obtain ⟨qid, rfl⟩ := bceVhciCreateTransferQueue_sqs ht
    exact absurd he List.not_mem_nil
  · intro a s s' hreach hold _ hstep
    have howned := reachable_owned hreach
    -- what a handler submits is for the first URB, which was enqueued before
    have hhead : ∀ e, (∃ u v, s.q.Head u e v) → e < s.q.nextVurb := by
      rintro e ⟨u, v, hhead⟩
      exact howned.urb_lt (Head.mem hhead) hhead.toHas
    cases step_spec howned hstep with
    | died => exact hold
    | quiet _ hq =>
      rw [hq.flags.frame]
      exact hold
    | enqueued _ _ _ hcreate =>
      refine hold.adds ((Adds.of_sqs rfl).trans hcreate.adds) ?_ ?_
      · show s.q.nextVurb ≤ _
        rw [hcreate.nextVurb]
        exact Nat.le_succ _
      · intro d e he
        show e.owner < _
        rw [hcreate.nextVurb, he]
        exact Nat.lt_succ_self _
    | refused _ _ _ _ hcreate =>
      refine hold.adds ((Adds.of_sqs rfl).trans hcreate.adds) ?_ ?_
      · show s.q.nextVurb ≤ _
        rw [hcreate.nextVurb]
        exact Nat.le_succ _
      · intro d e he
        show e.owner < _
        rw [hcreate.nextVurb, he]
        exact Nat.lt_succ_self _
    | delivered _ heff =>
      refine hold.adds heff.adds heff.heap.nextVurb.ge fun d e he => ?_
      exact heff.heap.nextVurb ▸ hhead _ he
    | event _ heff =>
      refine hold.adds heff.adds heff.heap.nextVurb.ge fun d e he => ?_
      exact heff.heap.nextVurb ▸ hhead _ he
    | @resumed u urb us v ops q' _ hu hhas heff =>
      have hn : q'.nextVurb = s.q.nextVurb := by
        rcases heff.heap hhas.vurb with hh | hh
        · exact hh.nextVurb
        · exact hh.nextVurb
      refine hold.adds heff.adds hn.ge fun d e he => ?_
      show e.owner < q'.nextVurb
      rw [hn, he]
      exact howned.urb_lt hu hhas
    | @completed d ops more q' _ heff =>
      show Old q'
      have hn := heff.heap.nextVurb
      cases heff with
      | idle => exact hold
      | @skipped t c sq ht => exact hold.setSq ht fun e he => TransferSq.known_consume sq he
      | @completed t t' c sq u urb v q₁ ht hnext _ hu heff ht' =>
        have hcons : Old (s.q.consume d t sq) :=
          hold.setSq ht fun e he => TransferSq.known_consume sq he
        have hn₁ : q₁.nextVurb = s.q.nextVurb := hn
        have h₁ : Old q₁ := hcons.adds heff.adds hn₁.ge fun d e he => by
          rw [hn₁, he]
          exact hhead urb ⟨u, v, hu⟩
        exact h₁.setSq ht' fun e he => he
    | @device a d t t' ops ht hdev => exact hold.setSq ht fun e he => hdev.known he
    | _ => exact hold

end Old

/-! ## Counting on both queues -/

/-- What `f` counts on `sq_out` and on `sq_in`. -/
def overSqs (f : TransferSq → Nat) (sqs : DmaDataDirection → Option TransferSq) : Nat :=
  ((sqs .toDevice).map f).getD 0 + ((sqs .fromDevice).map f).getD 0

section Counting

variable {q q' : BceVhciTransferQueue} {t : TransferSq} {d : DmaDataDirection}
  {f : TransferSq → Nat}

/-- Replacing one queue changes the count by what it changes there. -/
theorem overSqs_setSq (ht : q.sqs d = some t) (t' : TransferSq) :
    overSqs f (q.setSq d t').sqs + f t = overSqs f q.sqs + f t' := by
  cases d with
  | toDevice =>
    simp only [overSqs, BceVhciTransferQueue.setSq_sqs, Function.update_self, ht,
      Option.map_some, Option.getD_some]
    rw [Function.update_of_ne (by decide)]
    omega
  | fromDevice =>
    simp only [overSqs, BceVhciTransferQueue.setSq_sqs, Function.update_self, ht,
      Option.map_some, Option.getD_some]
    rw [Function.update_of_ne (by decide)]
    omega

/-- What is submitted may not count. -/
theorem overSqs_adds {P : DmaDataDirection → TransferElement → Prop} (h : Adds P q q')
    (hf : ∀ d t t' es, t.Added es t' → (∀ e ∈ es, P d e) → f t' = f t) :
    overSqs f q'.sqs = overSqs f q.sqs := by
  have hon : ∀ d, ((q'.sqs d).map f).getD 0 = ((q.sqs d).map f).getD 0 := by
    intro d
    cases ht : q.sqs d with
    | none => rw [h.none_iff.mpr ht]
    | some t =>
      obtain ⟨t', es, ht', hadd, hes⟩ := h.some ht
      rw [ht', Option.map_some, Option.map_some, Option.getD_some, Option.getD_some,
        hf d t t' es hadd hes]
  unfold overSqs
  rw [hon, hon]

end Counting

/-! ## Data elements in flight -/

/-- The data elements of the enqueue the device has on one queue. -/
def TransferSq.dataOf (t : TransferSq) (urb : Nat) : Nat :=
  t.inflight.countP fun e => e.owner = urb ∧ e.kind = .data

def dataOn (sqs : DmaDataDirection → Option TransferSq) (d : DmaDataDirection) (urb : Nat) : Nat :=
  ((sqs d).map fun t => t.dataOf urb).getD 0

/-- The data elements of the enqueue the device has. -/
def dataInFlight (sqs : DmaDataDirection → Option TransferSq) (urb : Nat) : Nat :=
  dataOn sqs .toDevice urb + dataOn sqs .fromDevice urb

section Data

variable {q q' : BceVhciTransferQueue} {t t' : TransferSq} {d : DmaDataDirection} {urb : Nat}
  {v : BceVhciUrb}

theorem dataInFlight_setSq (ht : q.sqs d = some t) (t' : TransferSq) (urb : Nat) :
    dataInFlight (q.setSq d t').sqs urb + t.dataOf urb =
      dataInFlight q.sqs urb + t'.dataOf urb :=
  overSqs_setSq (f := fun t => t.dataOf urb) ht t'

theorem dataInFlight_setSq_eq (ht : q.sqs d = some t) (hin : t'.inflight = t.inflight)
    (urb : Nat) : dataInFlight (q.setSq d t').sqs urb = dataInFlight q.sqs urb := by
  have h := dataInFlight_setSq ht t' urb
  unfold TransferSq.dataOf at h
  rw [hin] at h
  omega

/-- Consuming a completion, or giving a slot back, leaves the device what it has. -/
theorem dataInFlight_consume (ht : q.sqs d = some t) (sq : BceQueueSq) (urb : Nat) :
    dataInFlight (q.consume d t sq).sqs urb = dataInFlight q.sqs urb := by
  refine dataInFlight_setSq_eq ht ?_ urb
  rfl

theorem dataInFlight_notify (ht : q.sqs d = some t) (urb : Nat) :
    dataInFlight (q.notify d t).sqs urb = dataInFlight q.sqs urb := by
  refine dataInFlight_setSq_eq ht ?_ urb
  rfl

/-- Submitting an element changes the count of its own enqueue. -/
theorem dataInFlight_put (ht : q.sqs d = some t) (e : TransferElement) (urb : Nat) :
    dataInFlight (q.setSq d (t.put e)).sqs urb =
      dataInFlight q.sqs urb + if e.owner = urb ∧ e.kind = .data then 1 else 0 := by
  have h := dataInFlight_setSq ht (t.put e) urb
  unfold TransferSq.dataOf at h
  rw [TransferSq.put_inflight, List.countP_append, List.countP_singleton] at h
  simp only [decide_eq_true_eq] at h
  omega

/-- What one URB submits does not count for another. -/
theorem dataInFlight_adds {urb' : Nat} (h : Adds (OwnedBy urb) q q') (hne : urb' ≠ urb) :
    dataInFlight q'.sqs urb' = dataInFlight q.sqs urb' := by
  refine overSqs_adds (f := fun t => t.dataOf urb') h fun d t t' es hadd hes => ?_
  unfold TransferSq.dataOf
  rw [hadd.inflight, List.countP_append, Nat.add_eq_left, List.countP_eq_zero]
  intro e he hcount
  simp only [decide_eq_true_eq] at hcount
  exact hne (hcount.1.symm.trans (hes e he))

/-- A wait for a slot submits nothing. -/
theorem dataInFlight_waited (h : Waited q q') (urb : Nat) :
    dataInFlight q'.sqs urb = dataInFlight q.sqs urb := by
  have hadds : Adds (OwnedBy (urb + 1)) q q' := .of_waited h
  exact dataInFlight_adds hadds (Nat.succ_ne_self urb).symm

/-- The device never has more of an enqueue than before. -/
theorem DeviceEffect.dataOf_le (h : DeviceEffect t t') (urb : Nat) :
    t'.dataOf urb ≤ t.dataOf urb := by
  unfold TransferSq.dataOf
  cases h with
  | complete c hin =>
    rw [hin]
    exact (List.sublist_cons_self _ _).countP_le
  | abort k => exact (List.drop_sublist k t.inflight).countP_le
  | accept => exact Nat.le_refl _

/-- A URB none of whose data was asked for yet. -/
def BceVhciUrb.Unsent (v : BceVhciUrb) : Prop :=
  v.state = .initPaused ∨ v.state = .controlWaitingForSetupRequest ∨
    v.state = .controlWaitingForSetupCompletion ∨ v.state = .waitingForTransferRequest

/-- At most one data element of the URB is in flight, and none before its data
phase begins. -/
structure OneElement (sqs : DmaDataDirection → Option TransferSq) (urb : Nat) (v : BceVhciUrb) :
    Prop where
  one : dataInFlight sqs urb ≤ 1
  unsent : v.Unsent → dataInFlight sqs urb = 0

theorem OneElement.of_le {sqs sqs' : DmaDataDirection → Option TransferSq}
    (h : OneElement sqs urb v) (hle : dataInFlight sqs' urb ≤ dataInFlight sqs urb) :
    OneElement sqs' urb v :=
  ⟨hle.trans h.one, fun hu => Nat.le_zero.mp (h.unsent hu ▸ hle)⟩

/-- A URB with nothing in flight may be in any state. -/
theorem OneElement.of_zero {sqs : DmaDataDirection → Option TransferSq}
    (h : dataInFlight sqs urb = 0) : OneElement sqs urb v :=
  ⟨by omega, fun _ => h⟩

end Data

end BceDriver
