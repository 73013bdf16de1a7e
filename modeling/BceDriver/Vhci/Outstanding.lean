import BceDriver.Vhci.PauseResume
import BceDriver.Vhci.Slots

/-!
# The elements a URB has outstanding

- `TransferSq.Recorded`: the completions the driver is going to read are those of
  the oldest elements it has not heard of, in order.
- `outstanding`: how many elements of an enqueue the driver still has to hear of.
  A flushed one is not among them: its completion is skipped.
- `InFlightOn`: the device has an element of the enqueue on one queue.
- `NoMore`: neither grows.
-/

namespace BceDriver

open RingIndex

/-! ## What the driver is going to read -/

/-- The ring holds the completions of the elements in `pending`. -/
def TransferSq.Recorded (t : TransferSq) : Prop :=
  (∃ n, t.Lost n) ∧ ∀ i p, t.pending[i]? = some p →
    t.sq.completionData (advance t.sq.elCount t.sq.completionCidx i) = p.2

section Recorded

variable {t t' : TransferSq} {c : BceSqCompletionData} {sq : BceQueueSq}

/-- Submitting elements does not disturb the completions. -/
theorem TransferSq.Added.completions {es : List TransferElement} (h : t.Added es t') :
    t'.sq.completionData = t.sq.completionData ∧ t'.sq.completionCidx = t.sq.completionCidx := by
  induction h with
  | refl => exact ⟨rfl, rfl⟩
  | waited _ hw ih =>
    obtain ⟨tokens, waiting, rfl⟩ := hw
    exact ih
  | put e _ _ ih => exact ih

theorem TransferSq.Recorded.added {es : List TransferElement} (h : t.Recorded)
    (hadd : t.Added es t') : t'.Recorded := by
  obtain ⟨⟨n, hlost⟩, hdata⟩ := h
  obtain ⟨hcompletions, hcidx⟩ := hadd.completions
  refine ⟨⟨n, hlost.added hadd⟩, ?_⟩
  rw [hadd.pending, hcompletions, hcidx, hadd.elCount]
  exact hdata

theorem TransferSq.Recorded.device (h : t.Recorded) (hdev : DeviceEffect t t') :
    t'.Recorded := by
  obtain ⟨⟨n, hlost⟩, hdata⟩ := h
  refine ⟨⟨n, hlost.device hdev⟩, ?_⟩
  cases hdev with
  | complete => exact hdata
  | abort => exact hdata
  | @accept e c rest hposted =>
    -- the new completion goes behind those that wait, where none of them is
    have hcredit : SqCredit t.sq n t.pending.length (t.posted.length + t.inflight.length) 0 := hlost
    have hroom := hcredit.occupied_lt
    have hctail : t.sq.completionTail =
        advance t.sq.elCount t.sq.completionCidx t.pending.length := by
      rw [hcredit.ctail, hcredit.cidx, advance_advance]
    have hcidx : t.sq.completionCidx < t.sq.elCount := by
      rw [hcredit.cidx]
      exact advance_lt hcredit.elCount_pos
    intro i p hp
    show Function.update t.sq.completionData t.sq.completionTail _
      (advance t.sq.elCount t.sq.completionCidx i) = p.2
    rw [hctail]
    rcases Nat.lt_trichotomy i t.pending.length with hi | rfl | hi
    · rw [List.getElem?_append_left hi] at hp
      rw [Function.update_of_ne, hdata i p hp]
      intro heq
      exact hi.ne (advance_inj hcidx (by omega) (by omega) heq)
    · rw [List.getElem?_append_right (Nat.le_refl _), Nat.sub_self] at hp
      obtain rfl := Option.some.inj hp
      exact Function.update_self ..
    · rw [List.getElem?_eq_none (by simpa using Nat.succ_le_of_lt hi)] at hp
      cases hp

/-- The completion that is read is the one of the oldest element. -/
theorem TransferSq.Recorded.next (h : t.Recorded) (hnext : bceNextCompletion t.sq = some (c, sq)) :
    ∃ e rest, t.pending = (e, c) :: rest ∧
      ({ t with sq := sq, pending := rest } : TransferSq).Recorded := by
  obtain ⟨⟨n, hlost⟩, hdata⟩ := h
  obtain ⟨hne, hlost'⟩ := hlost.consume hnext
  have hcredit : SqCredit t.sq n t.pending.length (t.posted.length + t.inflight.length) 0 := hlost
  have hcidx : t.sq.completionCidx < t.sq.elCount := by
    rw [hcredit.cidx]
    exact advance_lt hcredit.elCount_pos
  obtain ⟨p, rest, hpending⟩ := List.exists_cons_of_ne_nil hne
  unfold bceNextCompletion at hnext
  split at hnext
  · cases hnext
  obtain ⟨rfl, rfl⟩ := Prod.mk.inj (Option.some.inj hnext)
  have hfirst := hdata 0 p (by simp [hpending])
  rw [advance_zero hcidx] at hfirst
  refine ⟨p.1, rest, by rw [hpending, hfirst], ⟨n + 1, ?_⟩, fun i p' hp' => ?_⟩
  · rw [hpending, List.tail_cons] at hlost'
    exact hlost'
  · have hat := hdata (i + 1) p' (by simpa [hpending] using hp')
    show t.sq.completionData (advance t.sq.elCount ((t.sq.completionCidx + 1) % t.sq.elCount) i) = _
    rw [← hat, advance, advance, Nat.mod_add_mod, Nat.add_assoc, Nat.add_comm 1 i]

theorem TransferSq.Recorded.notify (h : t.Recorded) (hlost : ∃ n, t.Lost (n + 1)) :
    ({ t with sq := bceNotifySubmissionComplete t.sq } : TransferSq).Recorded := by
  obtain ⟨n, hlost⟩ := hlost
  refine ⟨⟨n, hlost.notify⟩, ?_⟩
  dsimp only
  rw [bceNotifySubmissionComplete_completionData, bceNotifySubmissionComplete_completionCidx,
    bceNotifySubmissionComplete_elCount]
  exact h.2

end Recorded

theorem BceVhciTransferQueue.consume_sqs_self (q : BceVhciTransferQueue) (d : DmaDataDirection)
    (t : TransferSq) (sq : BceQueueSq) :
    (q.consume d t sq).sqs d = some { t with sq := sq, pending := t.pending.tail } :=
  Function.update_self ..

theorem BceVhciTransferQueue.notify_sqs_self (q : BceVhciTransferQueue) (d : DmaDataDirection)
    (t : TransferSq) :
    (q.notify d t).sqs d = some { t with sq := bceNotifySubmissionComplete t.sq } :=
  Function.update_self ..

/-- **The driver reads the completions in order**, in every run. -/
theorem reachable_recorded {G : EndpointAction → Endpoint → Prop} {s : Endpoint}
    (h : endpointSystem.Reachable G s) : EachSq TransferSq.Recorded s.q := by
  refine reachable_each (fun qid => ⟨⟨0, SqCredit.init (by decide)⟩, nofun⟩)
    (fun _ _ _ h hadd => h.added hadd) (fun _ _ h hdev => h.device hdev) ?_ h
  rintro s d ops more q' t t' - - heff ht ht' hrec
  cases heff with
  | idle =>
    obtain rfl := Option.some.inj (ht.symm.trans ht')
    exact hrec
  | skipped ht₀ hnext =>
    obtain rfl := Option.some.inj (ht.symm.trans ht₀)
    obtain ⟨e, rest, hpending, hrec'⟩ := hrec.next hnext
    obtain rfl := Option.some.inj (ht'.symm.trans (s.q.consume_sqs_self d t _))
    rw [hpending]
    exact hrec'
  | @completed t₀ t₁ cd sq u urb v q₁ ht₀ hnext _ _ heff ht₁ =>
    obtain rfl := Option.some.inj (ht.symm.trans ht₀)
    obtain ⟨e, rest, hpending, hrec'⟩ := hrec.next hnext
    obtain ⟨n, hlost⟩ := hrec.1
    have hlost' := (hlost.consume hnext).2
    have hcons : (s.q.consume d t sq).sqs d = some { t with sq := sq, pending := rest } := by
      rw [BceVhciTransferQueue.consume_sqs_self, hpending, List.tail_cons]
    rw [hpending, List.tail_cons] at hlost'
    obtain ⟨t₂, es, ht₂, hadd, -⟩ := heff.adds.some hcons
    obtain rfl := Option.some.inj (ht₁.symm.trans ht₂)
    obtain rfl := Option.some.inj (ht'.symm.trans (q₁.notify_sqs_self d t₁))
    exact (hrec'.added hadd).notify ⟨n, hlost'.added hadd⟩

/-! ## Outstanding elements -/

/-- The elements whose completion a URB is going to be handed, oldest last. -/
def TransferSq.outstanding (t : TransferSq) : List TransferElement :=
  t.inflight ++
    ((t.posted ++ t.pending).filter fun p => p.2.status ≠ BCE_COMPLETION_ABORTED).map Prod.fst

def TransferSq.outstandingOf (t : TransferSq) (urb : Nat) : Nat :=
  t.outstanding.countP fun e => e.owner = urb

/-- The elements of the enqueue that are outstanding. -/
def outstanding (sqs : DmaDataDirection → Option TransferSq) (urb : Nat) : Nat :=
  overSqs (fun t => t.outstandingOf urb) sqs

/-- The device has an element of the enqueue on that queue. -/
def InFlightOn (sqs : DmaDataDirection → Option TransferSq) (d : DmaDataDirection) (urb : Nat) :
    Prop :=
  ∃ t ∈ sqs d, ∃ e ∈ t.inflight, e.owner = urb

instance (sqs : DmaDataDirection → Option TransferSq) (d : DmaDataDirection) (urb : Nat) :
    Decidable (InFlightOn sqs d urb) :=
  inferInstanceAs (Decidable (∃ t ∈ sqs d, _))

theorem inFlight_iff {sqs : DmaDataDirection → Option TransferSq} {urb : Nat} :
    InFlight sqs urb ↔ InFlightOn sqs .toDevice urb ∨ InFlightOn sqs .fromDevice urb := by
  constructor
  · rintro ⟨d, t, ht, hin⟩
    cases d with
    | toDevice => exact .inl ⟨t, ht, hin⟩
    | fromDevice => exact .inr ⟨t, ht, hin⟩
  · rintro (⟨t, ht, hin⟩ | ⟨t, ht, hin⟩)
    · exact ⟨.toDevice, t, ht, hin⟩
    · exact ⟨.fromDevice, t, ht, hin⟩

instance (sqs : DmaDataDirection → Option TransferSq) (urb : Nat) : Decidable (InFlight sqs urb) :=
  decidable_of_iff _ inFlight_iff.symm

section Outstanding

variable {q q' : BceVhciTransferQueue} {t t' : TransferSq} {d d' : DmaDataDirection} {urb : Nat}

theorem InFlightOn.inFlight (h : InFlightOn q.sqs d urb) : InFlight q.sqs urb := by
  obtain ⟨t, ht, hin⟩ := h
  exact ⟨d, t, ht, hin⟩

/-- Submitting an element puts it in flight on its queue, for its enqueue. -/
theorem InFlightOn.of_put {e : TransferElement}
    (h : InFlightOn (q.setSq d (t.put e)).sqs d' urb) (ht : q.sqs d = some t) :
    InFlightOn q.sqs d' urb ∨ d' = d ∧ e.owner = urb := by
  obtain ⟨t₁, ht₁, e₁, he₁, howner⟩ := h
  by_cases hd : d' = d
  · subst hd
    obtain rfl : t.put e = t₁ := by simpa using ht₁
    rcases List.mem_append.mp he₁ with he₁ | he₁
    · exact .inl ⟨t, ht, e₁, he₁, howner⟩
    · obtain rfl := List.mem_singleton.mp he₁
      exact .inr ⟨rfl, howner⟩
  · exact .inl ⟨t₁, by simpa [hd] using ht₁, e₁, he₁, howner⟩

/-- An element the device has is outstanding. -/
theorem not_inFlight_of_zero (h : outstanding q.sqs urb = 0) : ¬InFlight q.sqs urb := by
  rintro ⟨d, t, ht, e, he, howner⟩
  have hcount := overSqs_setSq (f := fun t => t.outstandingOf urb) ht t
  have hpos : 0 < t.outstandingOf urb := by
    refine List.countP_pos_iff.mpr ⟨e, List.mem_append_left _ he, ?_⟩
    simpa using howner
  have hle : t.outstandingOf urb ≤ outstanding q.sqs urb := by
    unfold outstanding overSqs
    cases d with
    | toDevice =>
      rw [ht]
      exact Nat.le_add_right ..
    | fromDevice =>
      rw [ht]
      exact Nat.le_add_left ..
  omega

theorem TransferSq.put_outstandingOf (t : TransferSq) (e : TransferElement) (urb : Nat) :
    (t.put e).outstandingOf urb = t.outstandingOf urb + if e.owner = urb then 1 else 0 := by
  unfold TransferSq.outstandingOf TransferSq.outstanding
  rw [TransferSq.put_inflight, TransferSq.put_posted, TransferSq.put_pending]
  simp only [List.countP_append, List.countP_singleton, decide_eq_true_eq]
  omega

/-- Submitting an element changes the count of its own enqueue. -/
theorem outstanding_put (ht : q.sqs d = some t) (e : TransferElement) (urb : Nat) :
    outstanding (q.setSq d (t.put e)).sqs urb =
      outstanding q.sqs urb + if e.owner = urb then 1 else 0 := by
  have hcount := overSqs_setSq (f := fun t => t.outstandingOf urb) ht (t.put e)
  rw [TransferSq.put_outstandingOf] at hcount
  unfold outstanding
  omega

/-- What one URB submits does not count for another. -/
theorem outstanding_adds {urb' : Nat} (h : Adds (OwnedBy urb) q q') (hne : urb' ≠ urb) :
    outstanding q'.sqs urb' = outstanding q.sqs urb' := by
  refine overSqs_adds h fun d t t' es hadd hes => ?_
  unfold TransferSq.outstandingOf TransferSq.outstanding
  rw [hadd.inflight, hadd.posted, hadd.pending, List.countP_append, List.countP_append,
    List.countP_append, Nat.add_left_inj, Nat.add_eq_left, List.countP_eq_zero]
  intro e he howner
  exact hne ((by simpa using howner : e.owner = urb').symm.trans (hes e he))

/-- A wait for a slot submits nothing. -/
theorem outstanding_waited (h : Waited q q') (urb : Nat) :
    outstanding q'.sqs urb = outstanding q.sqs urb := by
  have hadds : Adds (OwnedBy (urb + 1)) q q' := .of_waited h
  exact outstanding_adds hadds (Nat.succ_ne_self urb).symm

theorem outstanding_notify (ht : q.sqs d = some t) (urb : Nat) :
    outstanding (q.notify d t).sqs urb = outstanding q.sqs urb := by
  have hcount := overSqs_setSq (f := fun t => t.outstandingOf urb) ht
    { t with sq := bceNotifySubmissionComplete t.sq }
  exact Nat.add_right_cancel hcount

/-- A URB that is handed a completion of its own has one outstanding element less,
one that is handed another's has as many as before. -/
theorem outstanding_consume {c : BceSqCompletionData} {sq : BceQueueSq} {e : TransferElement}
    {rest : List (TransferElement × BceSqCompletionData)} (ht : q.sqs d = some t)
    (hpending : t.pending = (e, c) :: rest) (hc : c.status ≠ BCE_COMPLETION_ABORTED) (urb : Nat) :
    outstanding (q.consume d t sq).sqs urb + (if e.owner = urb then 1 else 0) =
      outstanding q.sqs urb := by
  have hcount := overSqs_setSq (f := fun t => t.outstandingOf urb) ht
    { t with sq := sq, pending := t.pending.tail }
  have hof : t.outstandingOf urb = ({ t with sq := sq, pending := t.pending.tail } :
      TransferSq).outstandingOf urb + if e.owner = urb then 1 else 0 := by
    unfold TransferSq.outstandingOf TransferSq.outstanding
    simp only [hpending, List.tail_cons, List.filter_append, List.filter_cons, hc, ne_eq,
      not_false_eq_true, decide_true, if_true, List.map_append, List.map_cons, List.countP_append,
      List.countP_cons, decide_eq_true_eq]
    omega
  unfold outstanding BceVhciTransferQueue.consume
  omega

/-- Consuming a completion makes nothing outstanding. -/
theorem outstanding_consume_le (ht : q.sqs d = some t) (sq : BceQueueSq) (urb : Nat) :
    outstanding (q.consume d t sq).sqs urb ≤ outstanding q.sqs urb := by
  have hcount := overSqs_setSq (f := fun t => t.outstandingOf urb) ht
    { t with sq := sq, pending := t.pending.tail }
  have hle : ({ t with sq := sq, pending := t.pending.tail } : TransferSq).outstandingOf urb ≤
      t.outstandingOf urb := by
    refine List.Sublist.countP_le (List.Sublist.append_left ?_ _)
    exact ((List.Sublist.append_left (List.tail_sublist _) _).filter _).map _
  unfold outstanding BceVhciTransferQueue.consume
  omega

/-- The device makes nothing outstanding. -/
theorem DeviceEffect.outstanding_le (h : DeviceEffect t t') (ht : q.sqs d = some t) (urb : Nat) :
    outstanding (q.setSq d t').sqs urb ≤ outstanding q.sqs urb := by
  have hcount := overSqs_setSq (f := fun t => t.outstandingOf urb) ht t'
  have hle : t'.outstandingOf urb ≤ t.outstandingOf urb := by
    unfold TransferSq.outstandingOf TransferSq.outstanding
    cases h with
    | complete c hin =>
      rw [hin]
      simp only [List.filter_append, List.map_append, List.countP_append, List.countP_cons,
        List.filter_cons, List.filter_nil]
      split
      · simp only [List.map_cons, List.map_nil, List.countP_cons, List.countP_nil]
        omega
      · simp only [List.map_nil, List.countP_nil]
        omega
    | abort k =>
      have hnone : ((t.inflight.take k).map fun e =>
          (e, (⟨BCE_COMPLETION_ABORTED, 0, 0⟩ : BceSqCompletionData))).filter
            (fun p => p.2.status ≠ BCE_COMPLETION_ABORTED) = [] := by
        rw [List.filter_eq_nil_iff]
        intro p hp
        obtain ⟨e, -, rfl⟩ := List.mem_map.mp hp
        simp
      simp only [TransferSq.abort, List.filter_append, hnone, List.append_nil, List.map_append,
        List.countP_append]
      have hdrop := (List.drop_sublist k t.inflight).countP_le (p := fun e => e.owner = urb)
      omega
    | accept hposted =>
      rw [hposted]
      simp only [List.filter_append, List.filter_cons, List.filter_nil, List.map_append,
        List.countP_append]
      split
      · simp only [List.map_cons, List.map_nil, List.countP_cons, List.countP_nil]
        omega
      · simp only [List.map_nil, List.countP_nil]
        omega
  unfold outstanding
  omega

end Outstanding

/-! ## No more than before -/

/-- The device and the driver have no more of the enqueue than before. -/
structure NoMore (sqs sqs' : DmaDataDirection → Option TransferSq) (urb : Nat) : Prop where
  outstanding_le : outstanding sqs' urb ≤ outstanding sqs urb
  inFlight : ∀ d, InFlightOn sqs' d urb → InFlightOn sqs d urb

section NoMore

variable {q q' : BceVhciTransferQueue} {t t' : TransferSq} {d : DmaDataDirection} {urb : Nat}

theorem NoMore.not_inFlight {sqs sqs' : DmaDataDirection → Option TransferSq}
    (h : NoMore sqs sqs' urb) (hnot : ¬InFlight sqs urb) : ¬InFlight sqs' urb := by
  rintro ⟨d, t, ht, hin⟩
  obtain ⟨t', ht', hin'⟩ := h.inFlight d ⟨t, ht, hin⟩
  exact hnot ⟨d, t', ht', hin'⟩

/-- What one URB submits is not another's. -/
theorem NoMore.of_adds {urb' : Nat} (h : Adds (OwnedBy urb) q q') (hne : urb' ≠ urb) :
    NoMore q.sqs q'.sqs urb' := by
  refine ⟨(outstanding_adds h hne).le, fun d hin => ?_⟩
  obtain ⟨t', ht', e, he, howner⟩ := hin
  cases ht : q.sqs d with
  | none => simp [h.none_iff.mpr ht] at ht'
  | some t =>
    obtain ⟨t₁, es, ht₁, hadd, hes⟩ := h.some ht
    obtain rfl := Option.some.inj (Eq.trans (Eq.symm ht') ht₁)
    rw [hadd.inflight] at he
    rcases List.mem_append.mp he with he | he
    · exact ⟨t, ht, e, he, howner⟩
    · exact absurd (howner.symm.trans (hes e he)) hne

theorem NoMore.of_waited (h : Waited q q') (urb : Nat) : NoMore q.sqs q'.sqs urb := by
  have hadds : Adds (OwnedBy (urb + 1)) q q' := .of_waited h
  exact .of_adds hadds (Nat.succ_ne_self urb).symm

/-- A queue is replaced by one with no more in flight. -/
theorem NoMore.of_setSq (ht : q.sqs d = some t) (hsub : ∀ e ∈ t'.inflight, e ∈ t.inflight)
    (hout : outstanding (q.setSq d t').sqs urb ≤ outstanding q.sqs urb) :
    NoMore q.sqs (q.setSq d t').sqs urb := by
  refine ⟨hout, fun d' hin => ?_⟩
  obtain ⟨t₁, ht₁, e, he, howner⟩ := hin
  by_cases hd : d' = d
  · subst hd
    obtain rfl : t' = t₁ := by simpa using ht₁
    exact ⟨t, ht, e, hsub e he, howner⟩
  · exact ⟨t₁, by simpa [hd] using ht₁, e, he, howner⟩

theorem NoMore.consume (ht : q.sqs d = some t) (sq : BceQueueSq) (urb : Nat) :
    NoMore q.sqs (q.consume d t sq).sqs urb :=
  .of_setSq ht (fun _ he => he) (outstanding_consume_le ht sq urb)

theorem NoMore.notify (ht : q.sqs d = some t) (urb : Nat) :
    NoMore q.sqs (q.notify d t).sqs urb :=
  .of_setSq ht (fun _ he => he) (outstanding_notify ht urb).le

theorem NoMore.device (ht : q.sqs d = some t) (hdev : DeviceEffect t t') (urb : Nat) :
    NoMore q.sqs (q.setSq d t').sqs urb :=
  .of_setSq ht hdev.inflight_sub (hdev.outstanding_le ht urb)

end NoMore

/-- An outstanding element is one the driver has not heard of. -/
theorem TransferSq.outstanding_known {t : TransferSq} {e : TransferElement}
    (he : e ∈ t.outstanding) : e ∈ t.known := by
  unfold TransferSq.outstanding at he
  unfold TransferSq.known
  rw [List.append_assoc, ← List.map_append]
  rcases List.mem_append.mp he with he | he
  · exact List.mem_append_left _ he
  · obtain ⟨p, hp, rfl⟩ := List.mem_map.mp he
    exact List.mem_append_right _ (List.mem_map_of_mem (List.mem_of_mem_filter hp))

/-- A new enqueue has nothing outstanding. -/
theorem Old.outstanding_zero {q : BceVhciTransferQueue} (h : Old q) :
    outstanding q.sqs q.nextVurb = 0 := by
  have hon : ∀ d, ((q.sqs d).map fun t => t.outstandingOf q.nextVurb).getD 0 = 0 := by
    intro d
    cases ht : q.sqs d with
    | none => rfl
    | some t =>
      rw [Option.map_some, Option.getD_some]
      unfold TransferSq.outstandingOf
      rw [List.countP_eq_zero]
      intro e he howner
      have hlt := h d t ht e (TransferSq.outstanding_known he)
      simp only [decide_eq_true_eq] at howner
      omega
  unfold outstanding overSqs
  rw [hon, hon]

end BceDriver
