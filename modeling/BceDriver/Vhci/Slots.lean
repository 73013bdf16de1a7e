import BceDriver.Vhci.Places

/-!
# The slots of `sq_in` and `sq_out`

`bce_vhci_transfer_queue_completion` gives a slot back for a completion it hands
to a URB, and for no other: an aborted completion, and one that finds no URB,
cost a slot for good.

- `Returned`: the next completion is one of the former; `EachReturned`: so are
  all of them, each at its turn.
- `Balanced`: no slot was lost so far; `reachable_balanced`: the invariant of the
  runs whose completions are all `Returned`.
- `TransferSq.InRing`: the elements submitted are in their slots; `elements_in_ring`:
  so they are in every run.
-/

namespace BceDriver

open FaultState

/-- The next completion of `sq_in` or `sq_out`, if there is one, is handed to a URB. -/
def Returned (d : DmaDataDirection) (q : BceVhciTransferQueue) : Prop :=
  ∀ c ∈ q.nextCompletion d, c.status ≠ BCE_COMPLETION_ABORTED ∧ q.urbList ≠ []

instance (d : DmaDataDirection) (q : BceVhciTransferQueue) : Decidable (Returned d q) :=
  inferInstanceAs (Decidable (∀ c ∈ (_ : Option BceSqCompletionData), _))

/-- Each of the next `n` completions is handed to a URB at its turn. -/
def EachReturned (d : DmaDataDirection) : Nat → BceVhciTransferQueue → Prop
  | 0, _ => True
  | n + 1, q => Returned d q ∧ ∀ more q',
      (bceVhciTransferQueueCompletionRound d).run q = .ok (more, q') → EachReturned d n q'

/-- The handler gave back one slot for each of `consumed` completions; the
elements it submitted itself are taken into account. -/
def SlotsReturned (t t' : TransferSq) (consumed : Nat) : Prop :=
  t'.sq.head = t'.sq.completionCidx ∧
    t'.sq.availableCommands + (t'.submitted.length - t.submitted.length : Int) =
      t.sq.availableCommands + consumed

/-! ## One round -/

section Round

variable {q q' : BceVhciTransferQueue} {d : DmaDataDirection} {t : TransferSq}

theorem bceNextCompletion_credit {sq sq' : BceQueueSq} {cd : BceSqCompletionData} {a b c : Nat}
    (h : SqCredit sq a b c 0) (hnext : bceNextCompletion sq = some (cd, sq')) :
    ∃ b', b = b' + 1 ∧ sq'.elCount = sq.elCount ∧ SqCredit sq' (a + 1) b' c 0 := by
  cases b with
  | zero => simp [h.next_completion_none_iff.mpr rfl] at hnext
  | succ b' =>
    obtain ⟨cd', sq'', hnext', -, hsq, h'⟩ := h.next_completion
    obtain ⟨-, rfl⟩ := Prod.mk.inj (Option.some.inj (hnext.symm.trans hnext'))
    exact ⟨b', rfl, by rw [hsq], h'⟩

theorem returned_iff {cd : BceSqCompletionData} {sq : BceQueueSq} (ht : q.sqs d = some t)
    (hnext : bceNextCompletion t.sq = some (cd, sq)) :
    Returned d q ↔ cd.status ≠ BCE_COMPLETION_ABORTED ∧ q.urbList ≠ [] := by
  unfold Returned
  rw [BceVhciTransferQueue.nextCompletion_eq ht hnext]
  simp

/-- What a round costs: nothing if there is no completion, a slot if the
completion is not handed to a URB. -/
theorem CompletionRoundEffect.slots {more : Bool} {a b c : Nat}
    (h : CompletionRoundEffect q d more q') (ht : q.sqs d = some t)
    (hc : SqCredit t.sq a b c 0) :
    (∀ d', q'.sqs d' = none ↔ q.sqs d' = none) ∧
    ((more = false ∧ b = 0 ∧ q' = q) ∨
      ∃ b' t' lost new, more = true ∧ b = b' + 1 ∧ q'.sqs d = some t' ∧
        t'.sq.elCount = t.sq.elCount ∧ SqCredit t'.sq (a + lost) b' (c + new) 0 ∧
        t'.submitted.length = t.submitted.length + new ∧ (lost = 0 ↔ Returned d q)) := by
  cases h with
  | @idle t₀ ht₀ hnext =>
    obtain rfl := Option.some.inj (ht.symm.trans ht₀)
    exact ⟨fun _ => Iff.rfl, .inl ⟨rfl, hc.next_completion_none_iff.mp hnext, rfl⟩⟩
  | @skipped t₀ cd sq ht₀ hnext hskip =>
    obtain rfl := Option.some.inj (ht.symm.trans ht₀)
    obtain ⟨b', rfl, hn, hc'⟩ := bceNextCompletion_credit hc hnext
    refine ⟨fun d' => setSq_none ht, .inr ⟨b', _, 1, 0, rfl, rfl, Function.update_self ..,
      hn, hc', rfl, ?_⟩⟩
    constructor
    · intro h
      exact absurd h (by decide)
    · intro hret
      obtain ⟨hstatus, hlist⟩ := (returned_iff ht hnext).mp hret
      exact absurd hskip (not_or.mpr ⟨hstatus, hlist⟩)
  | @completed t₀ t' cd sq u urb v q₁ ht₀ hnext hstatus hhead heff ht' =>
    obtain rfl := Option.some.inj (ht.symm.trans ht₀)
    obtain ⟨b', rfl, hn, hc'⟩ := bceNextCompletion_credit hc hnext
    have hcons : (q.consume d t sq).sqs d = some { t with sq := sq, pending := t.pending.tail } :=
      Function.update_self ..
    obtain ⟨t₁, es, ht₁, hadd, -⟩ := heff.adds.some hcons
    obtain rfl := Option.some.inj (ht'.symm.trans ht₁)
    refine ⟨fun d' => ?_, .inr ⟨b', _, 0, es.length, rfl, rfl, Function.update_self ..,
      ?_, (hadd.credit hc').notify, ?_, ?_⟩⟩
    · exact (setSq_none ht').trans (heff.adds.none_iff.trans (setSq_none ht))
    · exact (bceNotifySubmissionComplete_elCount t'.sq).trans (hadd.elCount.trans hn)
    · show t'.submitted.length = _
      rw [hadd.submitted, List.length_append]
    · obtain ⟨us, hlist⟩ := hhead.first
      exact ⟨fun _ => (returned_iff ht hnext).mpr ⟨hstatus, by simp [hlist]⟩, fun _ => rfl⟩

end Round

/-! ## The handler -/

section Handler

variable {E : Fault → Prop} {d : DmaDataDirection}

/-- The rounds of the handler: every completion is consumed, and the slots lost
are those of completions not handed to a URB. -/
theorem completionLoop_spec : ∀ (rounds : Nat) {q : BceVhciTransferQueue} {t : TransferSq}
    {a b c : Nat}, b < rounds → q.Live → q.urbList.Nodup →
      (∀ d, q.sqs d = none → E .nullDeref) → q.sqs d = some t → SqCredit t.sq a b c 0 →
      wp (bceVhciTransferQueueCompletionLoop d rounds) E (fun _ q' =>
        q'.Live ∧ q'.urbList.Nodup ∧ (∀ d, q'.sqs d = none ↔ q.sqs d = none) ∧
        ∃ t' lost new, q'.sqs d = some t' ∧ t'.sq.elCount = t.sq.elCount ∧
          SqCredit t'.sq (a + lost) 0 (c + new) 0 ∧
          t'.submitted.length = t.submitted.length + new ∧ (lost = 0 ↔ EachReturned d b q)) q := by
  intro rounds
  -- by induction on the rounds left: each consumes one completion of `b`
  induction rounds with
  | zero =>
    intro q t a b c hb
    exact absurd hb (Nat.not_lt_zero b)
  | succ rounds ih =>
    intro q t a b c hb hlive hnodup hE ht hc
    unfold bceVhciTransferQueueCompletionLoop
    rw [wp_bind]
    refine wp_imp (wp_run (completionRound_spec hlive d (hE d) fun _ _ _ => hE _))
      fun more q₁ hround => ?_
    obtain ⟨heff, hrun⟩ := hround
    obtain ⟨hlive₁, hnodup₁⟩ := heff.heap.live hlive hnodup
    obtain ⟨hnone, hmove⟩ := heff.slots ht hc
    rcases hmove with ⟨rfl, rfl, rfl⟩ | ⟨b', t₁, lost, new, rfl, rfl, ht₁, hn₁, hc₁, hsub, hret⟩
    · -- no completion is left
      rw [if_neg (by decide)]
      exact wp_pure.mpr ⟨hlive, hnodup, fun _ => Iff.rfl, t, 0, 0, ht, rfl, hc, rfl,
        fun _ => trivial, fun _ => rfl⟩
    · rw [if_pos rfl]
      refine wp_imp (ih (Nat.lt_of_succ_lt_succ hb) hlive₁ hnodup₁
        (fun d hd => hE d ((hnone d).mp hd)) ht₁ hc₁) fun _ q' hq' => ?_
      obtain ⟨hlive', hnodup', hnone', t', lost', new', ht', hn', hc', hsub', hret'⟩ := hq'
      refine ⟨hlive', hnodup', fun d => (hnone' d).trans (hnone d), t', lost + lost', new + new',
        ht', hn'.trans hn₁, ?_, ?_, ?_⟩
      · rw [← Nat.add_assoc, ← Nat.add_assoc]
        exact hc'
      · omega
      · -- the round is the one `EachReturned` runs
        have hnext : (∀ more q₂, (bceVhciTransferQueueCompletionRound d).run q = .ok (more, q₂) →
            EachReturned d b' q₂) ↔ EachReturned d b' q₁ := by
          constructor
          · exact fun h => h true q₁ hrun
          · intro h more q₂ hrun₂
            obtain ⟨-, rfl⟩ := Prod.mk.inj (Except.ok.inj (hrun.symm.trans hrun₂))
            exact h
        rw [Nat.add_eq_zero_iff, hret, hret']
        exact and_congr_right fun _ => hnext.symm

/-- No slot is lost exactly when the counters say so. -/
theorem slotsReturned_iff {t t' : TransferSq} {b c lost new : Nat} (hc : SqCredit t.sq 0 b c 0)
    (hc' : SqCredit t'.sq lost 0 (c + new) 0) (hn : t'.sq.elCount = t.sq.elCount)
    (hsub : t'.submitted.length = t.submitted.length + new) :
    SlotsReturned t t' b ↔ lost = 0 := by
  have h := hc.credit
  have h' := hc'.credit
  unfold SlotsReturned
  constructor
  · rintro ⟨-, havailable⟩
    omega
  · rintro rfl
    refine ⟨?_, by omega⟩
    rw [hc'.cidx, RingIndex.advance_zero hc'.head_lt]

/-- The handler gives its slots back exactly when every completion is handed to
a URB at its turn. -/
theorem completion_slots_iff {q : BceVhciTransferQueue} {t : TransferSq} {b c : Nat}
    (hlive : q.Live) (hnodup : q.urbList.Nodup) (ht : q.sqs d = some t)
    (hc : SqCredit t.sq 0 b c 0) :
    wp (bceVhciTransferQueueCompletion d) (fun f => f = .nullDeref ∧ ∃ d, q.sqs d = none)
      (fun _ q' => ∃ t', q'.sqs d = some t' ∧ bceNextCompletion t'.sq = none ∧
        (SlotsReturned t t' b ↔ EachReturned d b q)) q := by
  have hbound : b < t.sq.elCount := by
    have hlt := hc.occupied_lt
    omega
  unfold bceVhciTransferQueueCompletion
  simp only [wp_bind, wp_get, ht]
  refine wp_imp (completionLoop_spec t.sq.elCount hbound hlive hnodup
    (fun d hd => ⟨rfl, d, hd⟩) ht hc) fun _ q₁ hq₁ => ?_
  obtain ⟨hlive₁, hnodup₁, hnone, t₁, lost, new, ht₁, hn₁, hc₁, hsub₁, hret⟩ := hq₁
  -- delivering may submit further elements, and gives no slot back
  have hdeliver : wp bceVhciTransferQueueDeliverPending
      (fun f => f = .nullDeref ∧ ∃ d, q.sqs d = none)
      (fun _ q' => q'.Live ∧ q'.urbList.Nodup ∧ Adds (fun _ _ => True) q₁ q') q₁ := by
    refine wp_deliverPending (fun q' hq' => ?_) ⟨hlive₁, hnodup₁, .refl q₁⟩
    obtain ⟨hlive', hnodup', hadds⟩ := hq'
    refine wp_imp (deliverRound_spec hlive' fun _ _ _ _ _ _ hd => ?_) fun _ q'' heff => ?_
    · exact ⟨rfl, .toDevice, (hnone _).mp (hadds.none_iff.mp hd)⟩
    · obtain ⟨hlive'', hnodup''⟩ := heff.heap.live hlive' hnodup'
      exact ⟨hlive'', hnodup'', hadds.trans (heff.adds.mono fun _ _ _ => trivial)⟩
  refine wp_imp hdeliver fun _ q' hq' => ?_
  obtain ⟨-, -, hadds⟩ := hq'
  obtain ⟨t', es, ht', hadd, -⟩ := hadds.some ht₁
  rw [Nat.zero_add] at hc₁
  have hc' : SqCredit t'.sq lost 0 (c + (new + es.length)) 0 := by
    rw [← Nat.add_assoc]
    exact hadd.credit hc₁
  refine ⟨t', ht', hc'.next_completion_none_iff.mpr rfl, ?_⟩
  rw [slotsReturned_iff hc hc' (hadd.elCount.trans hn₁), hret]
  rw [hadd.submitted, List.length_append, hsub₁, Nat.add_assoc]

end Handler

/-! ## All runs -/

/-- The slots that are neither credit nor hold an element. -/
def TransferSq.Lost (t : TransferSq) (lost : Nat) : Prop :=
  SqCredit t.sq lost t.pending.length (t.posted.length + t.inflight.length) 0

/-- No slot of the queue was lost: those that are not credit hold an element. -/
def TransferSq.Balanced (t : TransferSq) : Prop :=
  SqCredit t.sq 0 t.pending.length (t.posted.length + t.inflight.length) 0

/-- No slot of `sq_in` or `sq_out` was lost. -/
def Balanced (q : BceVhciTransferQueue) : Prop :=
  ∀ d t, q.sqs d = some t → t.Balanced

section Runs

variable {q q' : BceVhciTransferQueue} {t t' : TransferSq} {d d' : DmaDataDirection} {n : Nat}

theorem TransferSq.Lost.added {es : List TransferElement} (h : t.Lost n)
    (hadd : t.Added es t') : t'.Lost n := by
  have hc := hadd.credit h
  unfold TransferSq.Lost
  rw [hadd.pending, hadd.posted, hadd.inflight, List.length_append, ← Nat.add_assoc]
  exact hc

theorem TransferSq.Lost.device (h : t.Lost n) (hdev : DeviceEffect t t') : t'.Lost n := by
  unfold TransferSq.Lost at h ⊢
  cases hdev with
  | @complete e es c hin =>
    rw [hin, List.length_cons] at h
    rw [List.length_append, List.length_singleton, Nat.add_assoc, Nat.add_comm 1]
    exact h
  | abort k =>
    have hlen : (t.posted ++ (t.inflight.take k).map fun e =>
        (e, (⟨BCE_COMPLETION_ABORTED, 0, 0⟩ : BceSqCompletionData))).length +
        (t.inflight.drop k).length = t.posted.length + t.inflight.length := by
      simp only [List.length_append, List.length_map, List.length_take, List.length_drop]
      omega
    show SqCredit t.sq n t.pending.length _ 0
    unfold TransferSq.abort
    rw [hlen]
    exact h
  | @accept e c rest hposted =>
    rw [hposted, List.length_cons, Nat.add_right_comm] at h
    rw [List.length_append, List.length_singleton]
    exact h.store _

/-- A completion that is consumed leaves its slot taken, until it is given back. -/
theorem TransferSq.Lost.consume {cd : BceSqCompletionData} {sq : BceQueueSq} (h : t.Lost n)
    (hnext : bceNextCompletion t.sq = some (cd, sq)) :
    t.pending ≠ [] ∧
      ({ t with sq := sq, pending := t.pending.tail } : TransferSq).Lost (n + 1) := by
  obtain ⟨b', hb, -, hc⟩ := bceNextCompletion_credit h hnext
  refine ⟨List.ne_nil_of_length_eq_add_one hb, ?_⟩
  unfold TransferSq.Lost
  dsimp only
  rw [List.length_tail, hb]
  exact hc

theorem TransferSq.Lost.notify (h : t.Lost (n + 1)) :
    ({ t with sq := bceNotifySubmissionComplete t.sq } : TransferSq).Lost n :=
  SqCredit.notify h

/-- A round of the completion handler loses the slot of a completion that is not
handed to a URB. -/
theorem CompletionRoundEffect.lost {more : Bool} (heff : CompletionRoundEffect q d more q')
    (ht : q.sqs d = some t) (h : t.Lost n) :
    ∃ t', q'.sqs d = some t' ∧ (more = true → t'.pending.length < t.pending.length) ∧
      (t'.Lost n ∨ ¬Returned d q ∧ t'.Lost (n + 1)) := by
  cases heff with
  | idle => exact ⟨t, ht, nofun, .inl h⟩
  | skipped ht₀ hnext hskip =>
    obtain rfl := Option.some.inj (ht.symm.trans ht₀)
    obtain ⟨hpending, hlost⟩ := h.consume hnext
    have hshort := List.length_pos_of_ne_nil hpending
    refine ⟨_, Function.update_self .., fun _ => ?_, .inr ⟨fun hret => ?_, hlost⟩⟩
    · show t.pending.tail.length < _
      rw [List.length_tail]
      omega
    · obtain ⟨hstatus, hlist⟩ := (returned_iff ht hnext).mp hret
      exact absurd hskip (not_or.mpr ⟨hstatus, hlist⟩)
  | @completed t₀ t' cd sq u urb v q₁ ht₀ hnext hstatus hhead heff ht' =>
    obtain rfl := Option.some.inj (ht.symm.trans ht₀)
    obtain ⟨hpending, hlost⟩ := h.consume hnext
    have hshort := List.length_pos_of_ne_nil hpending
    have hcons : (q.consume d t sq).sqs d = some { t with sq := sq, pending := t.pending.tail } :=
      Function.update_self ..
    obtain ⟨t₁, es, ht₁, hadd, -⟩ := heff.adds.some hcons
    obtain rfl := Option.some.inj (ht'.symm.trans ht₁)
    refine ⟨_, Function.update_self .., fun _ => ?_, .inl (hlost.added hadd).notify⟩
    show t'.pending.length < _
    rw [hadd.pending, List.length_tail]
    omega

theorem CompletionRoundEffect.sqs_none {more : Bool} (heff : CompletionRoundEffect q d more q')
    (d' : DmaDataDirection) : q'.sqs d' = none ↔ q.sqs d' = none := by
  cases heff with
  | idle => exact Iff.rfl
  | skipped ht => exact setSq_none ht
  | completed ht _ _ _ heff ht' =>
    exact (setSq_none ht').trans (heff.adds.none_iff.trans (setSq_none ht))

/-- A round adds to the other queue at most. -/
theorem CompletionRoundEffect.other {more : Bool} (heff : CompletionRoundEffect q d more q')
    (hd : d' ≠ d) (ht : q.sqs d' = some t) : ∃ t' es, q'.sqs d' = some t' ∧ t.Added es t' := by
  cases heff with
  | idle => exact ⟨t, [], ht, .refl⟩
  | skipped ht₀ => exact ⟨t, [], by simpa [BceVhciTransferQueue.consume, hd] using ht, .refl⟩
  | @completed t₀ t' cd sq u urb v q₁ ht₀ hnext hstatus hhead heff ht' =>
    have hcons : (q.consume d t₀ sq).sqs d' = some t := by
      simpa [BceVhciTransferQueue.consume, hd] using ht
    obtain ⟨t₁, es, ht₁, hadd, -⟩ := heff.adds.some hcons
    exact ⟨t₁, es, by simpa [BceVhciTransferQueue.notify, hd] using ht₁, hadd⟩

/-- What a round keeps of the queue it works on, and an element more of the other,
it keeps of both. -/
theorem EachSq.completionRound {P : TransferSq → Prop} {more : Bool} (h : EachSq P q)
    (hadd : ∀ t t' es, P t → t.Added es t' → P t') (heff : CompletionRoundEffect q d more q')
    (hd : ∀ t t', q.sqs d = some t → q'.sqs d = some t' → P t → P t') : EachSq P q' := by
  intro d' t' ht'
  cases ht : q.sqs d' with
  | none => simp [(heff.sqs_none d').mpr ht] at ht'
  | some t =>
    by_cases hsame : d' = d
    · subst hsame
      exact hd t t' ht ht' (h d' t ht)
    · obtain ⟨t₁, es, ht₁, hadds⟩ := heff.other hsame ht
      obtain rfl := Option.some.inj (ht'.symm.trans ht₁)
      exact hadd t t' es (h d' t ht) hadds

end Runs

/-- The completion a round is about to consume, if it is one, is handed to a URB. -/
def RoundReturned : LockOp → BceVhciTransferQueue → Prop
  | .completions d, q => Returned d q
  | _, _ => True

instance : ∀ op q, Decidable (RoundReturned op q)
  | .completions d, q => inferInstanceAs (Decidable (Returned d q))
  | .deliver, _ | .event _, _ | .resume _, _ | .giveback, _ | .back, _ => .isTrue trivial

/-- **The invariant rule for submission queues.** -/
theorem reachable_each {G : EndpointAction → Endpoint → Prop} {P : TransferSq → Prop}
    (hinit : ∀ qid, P (.create qid)) (hadd : ∀ t t' es, P t → t.Added es t' → P t')
    (hdevice : ∀ t t', P t → DeviceEffect t t' → P t')
    (hround : ∀ s d ops more q' t t', G .lockStep s → s.lock = .completions d :: ops →
      CompletionRoundEffect s.q d more q' → s.q.sqs d = some t → q'.sqs d = some t' →
      P t → P t') {s : Endpoint} (h : endpointSystem.Reachable G s) : EachSq P s.q := by
  refine StepSystem.Reachable.invariant (I := fun s => EachSq P s.q) ?_ ?_ h
  · rintro s ⟨address, devAddr, qidIn, qidOut, urbs, m, w, rfl⟩ d t ht
    obtain ⟨qid, rfl⟩ := bceVhciCreateTransferQueue_sqs ht
    exact hinit qid
  · intro a s s' hreach heach hguard hstep
    cases step_spec (reachable_owned hreach) hstep with
    | died => exact heach
    | quiet _ hq => exact heach.adds hadd (.of_sqs (P := fun _ _ => True) hq.flags.sqs)
    | enqueued _ _ _ hcreate => exact heach.adds hadd ((Adds.of_sqs rfl).trans hcreate.adds)
    | refused _ _ _ _ hcreate => exact heach.adds hadd ((Adds.of_sqs rfl).trans hcreate.adds)
    | delivered _ heff => exact heach.adds hadd heff.adds
    | @completed d ops more q' hops heff =>
      exact heach.completionRound hadd heff fun t t' =>
        hround s d ops more q' t t' hguard hops heff
    | event _ heff => exact heach.adds hadd heff.adds
    | resumed _ _ _ heff => exact heach.adds hadd heff.adds
    | @device a d t t' ops ht hdev => exact heach.setSq (hdevice t t' (heach d t ht) hdev)
    | _ => exact heach

/-- **No slot is lost** in the runs whose completions are all handed to a URB. -/
theorem reachable_balanced {s : Endpoint}
    (h : endpointSystem.Reachable (AtLockStep RoundReturned) s) : Balanced s.q := by
  refine reachable_each (P := TransferSq.Balanced) (fun qid => SqCredit.init (by decide))
    (fun _ _ _ => TransferSq.Lost.added) (fun _ _ => TransferSq.Lost.device) ?_ h
  intro s d ops more q' t t' hguard hops heff ht ht' hbalanced
  obtain ⟨t₁, ht₁, -, hor⟩ := heff.lost ht hbalanced
  obtain rfl := Option.some.inj (ht'.symm.trans ht₁)
  exact hor.resolve_right fun hlost => hlost.1 (hguard.head hops)

/-- In every run the elements of a queue and the slots it lost are accounted for. -/
theorem reachable_lost {G : EndpointAction → Endpoint → Prop} {s : Endpoint}
    (h : endpointSystem.Reachable G s) : EachSq (fun t => ∃ n, t.Lost n) s.q := by
  refine reachable_each (fun qid => ⟨0, SqCredit.init (by decide)⟩)
    (fun _ _ _ h hadd => h.imp fun _ hlost => hlost.added hadd)
    (fun _ _ h hdev => h.imp fun _ hlost => hlost.device hdev) ?_ h
  rintro s d ops more q' t t' - - heff ht ht' ⟨n, hlost⟩
  obtain ⟨t₁, ht₁, -, hor⟩ := heff.lost ht hlost
  obtain rfl := Option.some.inj (ht'.symm.trans ht₁)
  exact hor.elim (fun h => ⟨n, h⟩) fun h => ⟨n + 1, h.2⟩

/-! ## What is in the slots -/

/-- What the device reads of an element. -/
def TransferElement.entry (e : TransferElement) : BceQeSubmission := ⟨e.length, e.addr, 0, 0⟩

/-- The elements are in their slots, up to the doorbell: each until the slot is taken again. -/
structure TransferSq.InRing (t : TransferSq) : Prop where
  elCount_pos : 0 < t.sq.elCount
  tail : t.sq.tail = t.submitted.length % t.sq.elCount
  rung : t.sq.doorbell = t.sq.tail
  written : ∀ k e, t.submitted[k]? = some e → t.submitted.length ≤ k + t.sq.elCount →
    t.sq.data (k % t.sq.elCount) = e.entry
  inflight : t.inflight <:+ t.submitted

namespace TransferSq.InRing

variable {t t' : TransferSq} {es : List TransferElement}

/-- The completions and the credit do not matter. -/
theorem of_eq (h : t.InRing) (hn : t'.sq.elCount = t.sq.elCount) (ht : t'.sq.tail = t.sq.tail)
    (hd : t'.sq.doorbell = t.sq.doorbell) (hdata : t'.sq.data = t.sq.data)
    (hsub : t'.submitted = t.submitted) (hin : t'.inflight <:+ t.inflight) : t'.InRing where
  elCount_pos := hn ▸ h.elCount_pos
  tail := by rw [ht, hsub, hn, h.tail]
  rung := by rw [hd, ht, h.rung]
  written := by
    rw [hsub, hn, hdata]
    exact h.written
  inflight := hsub ▸ hin.trans h.inflight

theorem create (qid : Nat) : (TransferSq.create qid).InRing where
  elCount_pos := Nat.zero_lt_succ _
  tail := rfl
  rung := rfl
  written _ e hk := absurd hk (Option.some_ne_none e).symm
  inflight := List.suffix_rfl

/-- The slot of an element just submitted holds it, and those of the elements before it that
are still in the window are not it. -/
theorem put (h : t.InRing) (e : TransferElement) : (t.put e).InRing where
  elCount_pos := h.elCount_pos
  tail := by
    show (t.sq.tail + 1) % t.sq.elCount = (t.submitted ++ [e]).length % t.sq.elCount
    rw [h.tail, Nat.mod_add_mod, List.length_append, List.length_singleton]
  rung := rfl
  written := by
    intro k e' hk hwindow
    rw [TransferSq.put_submitted, List.length_append, List.length_singleton,
      TransferSq.put_elCount] at hwindow
    rw [TransferSq.put_submitted] at hk
    show Function.update t.sq.data t.sq.tail e.entry (k % t.sq.elCount) = e'.entry
    obtain hold | hnew := Nat.lt_or_ge k t.submitted.length
    · rw [List.getElem?_append_left hold] at hk
      have hne : k % t.sq.elCount ≠ t.sq.tail := by
        intro heq
        rw [h.tail] at heq
        have := RingIndex.eq_of_mod_eq heq (Nat.le_refl k) (by omega) (by omega) (by omega)
        omega
      rw [Function.update_of_ne hne]
      exact h.written k e' hk (by omega)
    · rw [List.getElem?_append_right hnew] at hk
      obtain ⟨hlast, heq⟩ :=
        Option.ite_none_right_eq_some.mp (List.getElem?_singleton.symm.trans hk)
      obtain rfl := Option.some.inj heq
      rw [show k = t.submitted.length by omega, ← h.tail, Function.update_self]
  inflight := by
    obtain ⟨before, hbefore⟩ := h.inflight
    exact ⟨before, by rw [put_inflight, put_submitted, ← hbefore, List.append_assoc]⟩

theorem added (h : t.InRing) (hadd : t.Added es t') : t'.InRing := by
  induction hadd with
  | refl => exact h
  | waited _ hw ih =>
    obtain ⟨tokens, waiting, rfl⟩ := hw
    exact ih.of_eq rfl rfl rfl rfl rfl List.suffix_rfl
  | put e _ _ ih => exact ih.put e

theorem device (h : t.InRing) (hdev : DeviceEffect t t') : t'.InRing := by
  cases hdev with
  | complete c hin => exact h.of_eq rfl rfl rfl rfl rfl (hin ▸ List.suffix_cons _ _)
  | abort k => exact h.of_eq rfl rfl rfl rfl rfl (List.drop_suffix k _)
  | accept => exact h.of_eq rfl rfl rfl rfl rfl List.suffix_rfl

theorem consume {c : BceSqCompletionData} {sq : BceQueueSq} (h : t.InRing)
    (hnext : bceNextCompletion t.sq = some (c, sq)) :
    ({ t with sq := sq, pending := t.pending.tail } : TransferSq).InRing := by
  unfold bceNextCompletion at hnext
  split at hnext
  · cases hnext
  · cases hnext
    exact h.of_eq rfl rfl rfl rfl rfl List.suffix_rfl

theorem notify (h : t.InRing) :
    ({ t with sq := bceNotifySubmissionComplete t.sq } : TransferSq).InRing :=
  h.of_eq (by simp) (by simp) (by rw [bceNotifySubmissionComplete_eq]) (by simp) rfl
    List.suffix_rfl

end TransferSq.InRing

theorem CompletionRoundEffect.inRing {q q' : BceVhciTransferQueue} {d : DmaDataDirection}
    {t t' : TransferSq} {more : Bool} (heff : CompletionRoundEffect q d more q')
    (ht : q.sqs d = some t) (ht' : q'.sqs d = some t') (h : t.InRing) : t'.InRing := by
  cases heff with
  | idle =>
    obtain rfl := Option.some.inj (ht.symm.trans ht')
    exact h
  | @skipped t₀ c sq ht₀ hnext =>
    obtain rfl := Option.some.inj (ht.symm.trans ht₀)
    have hcons : (q.consume d t sq).sqs d = some { t with sq := sq, pending := t.pending.tail } :=
      Function.update_self ..
    obtain rfl := Option.some.inj (hcons.symm.trans ht')
    exact h.consume hnext
  | @completed t₀ t₁ c sq u urb v q₁ ht₀ hnext hstatus hhead heff ht₁ =>
    obtain rfl := Option.some.inj (ht.symm.trans ht₀)
    have hcons : (q.consume d t sq).sqs d = some { t with sq := sq, pending := t.pending.tail } :=
      Function.update_self ..
    obtain ⟨t₂, es, ht₂, hadd, -⟩ := heff.adds.some hcons
    obtain rfl := Option.some.inj (ht₁.symm.trans ht₂)
    have hnotify : (q₁.notify d t₁).sqs d =
        some { t₁ with sq := bceNotifySubmissionComplete t₁.sq } :=
      Function.update_self ..
    obtain rfl := Option.some.inj (hnotify.symm.trans ht')
    exact ((h.consume hnext).added hadd).notify

theorem reachable_inRing {G : EndpointAction → Endpoint → Prop} {s : Endpoint}
    (h : endpointSystem.Reachable G s) : EachSq TransferSq.InRing s.q :=
  reachable_each .create (fun _ _ _ h hadd => h.added hadd) (fun _ _ h hdev => h.device hdev)
    (fun _ _ _ _ _ _ _ _ _ heff ht ht' h => heff.inRing ht ht' h) h

/-- **The elements are in the ring.** In every run the `k`-th element submitted is in slot
`k % n`, with its address and length, until `n` further elements are submitted; so are those
the device has not completed, which are the last up to the doorbell. -/
theorem elements_in_ring {G : EndpointAction → Endpoint → Prop} {s : Endpoint}
    (h : endpointSystem.Reachable G s) {d : DmaDataDirection} {t : TransferSq}
    (ht : s.q.sqs d = some t) :
    (∀ k e, t.submitted[k]? = some e → t.submitted.length ≤ k + t.sq.elCount →
      t.sq.data (k % t.sq.elCount) = e.entry) ∧
    (∀ i e, t.inflight[i]? = some e →
      t.sq.data ((t.submitted.length - t.inflight.length + i) % t.sq.elCount) = e.entry) ∧
    t.sq.doorbell = t.submitted.length % t.sq.elCount := by
  have hring := reachable_inRing h d t ht
  obtain ⟨lost, hlost⟩ := reachable_lost h d t ht
  refine ⟨hring.written, fun i e hi => ?_, hring.rung.trans hring.tail⟩
  -- fewer elements than slots are in flight
  have hlt : t.inflight.length < t.sq.elCount := by
    have hoccupied := hlost.occupied_lt
    omega
  obtain ⟨before, hbefore⟩ := hring.inflight
  have hlen : before.length + t.inflight.length = t.submitted.length := by
    rw [← List.length_append, hbefore]
  rw [show t.submitted.length - t.inflight.length + i = before.length + i by omega]
  refine hring.written _ e ?_ (by omega)
  rw [← hbefore, List.getElem?_append_right (by omega), Nat.add_sub_cancel_left]
  exact hi

/-! ## The slots given back -/

/-- **The slots of a transfer queue.** The completion handler gives one slot back
for each completion it consumes exactly when each of them is, at its turn, not an
aborted one and finds a URB linked. In every run whose completions all are like
that, all the credit is there again whenever no element is outstanding. -/
theorem transfer_slots_returned (q : BceVhciTransferQueue) (d : DmaDataDirection)
    (t : TransferSq) (b c : Nat) :
    (q.Live → q.urbList.Nodup → q.sqs d = some t → SqCredit t.sq 0 b c 0 →
      wp (bceVhciTransferQueueCompletion d) (fun f => f = .nullDeref ∧ ∃ d, q.sqs d = none)
        (fun _ q' => ∃ t', q'.sqs d = some t' ∧ bceNextCompletion t'.sq = none ∧
          (SlotsReturned t t' b ↔ EachReturned d b q)) q) ∧
    ∀ (s : Endpoint), endpointSystem.Reachable (AtLockStep RoundReturned) s →
      ∀ d t, s.q.sqs d = some t → t.inflight = [] → t.posted = [] → t.pending = [] →
        t.sq.availableCommands = t.sq.elCount - 1 := by
  constructor
  · intro hlive hnodup ht hc
    exact completion_slots_iff hlive hnodup ht hc
  · intro s h d t ht hinflight hposted hpending
    have hc := reachable_balanced h d t ht
    unfold TransferSq.Balanced at hc
    rw [hinflight, hposted, hpending] at hc
    have hcredit := hc.credit
    simpa using hcredit

/-- A URB that asks for four bytes and gets them: the completion waits for its handler. -/
def acceptedRun : List EndpointAction :=
  [.enqueue 0 ⟨true, 4, 0, 0⟩ 0, .lockStep, .complete .fromDevice ⟨0, 4, 0⟩, .accept .fromDevice]

/-- The URB is completed, and given back. -/
def inRun : List EndpointAction :=
  acceptedRun ++ [.completion .fromDevice, .lockStep, .lockStep, .lockStep, .lockStep,
    .pop, .give 0]

def acceptedState : Endpoint :=
  endpointSystem.after (AtLockStep RoundReturned) acceptedRun (.fresh 0x81)

def acceptedSq : TransferSq := (acceptedState.q.sqs .fromDevice).get (by decide)

def inState : Endpoint := endpointSystem.after (AtLockStep RoundReturned) inRun (.fresh 0x81)

/-- The handler gives the slot of that URB back, and it is there again at the end. -/
theorem transfer_slots_returned_of_a_run :
    (∃ t', (final (bceVhciTransferQueueCompletion .fromDevice) acceptedState.q).sqs .fromDevice =
        some t' ∧ bceNextCompletion t'.sq = none ∧ SlotsReturned acceptedSq t' 1) ∧
    inState.givenBack = [0] ∧
      ((inState.q.sqs .fromDevice).get (by decide)).sq.availableCommands = 256 - 1 := by
  have haccepted : endpointSystem.Reachable (AtLockStep RoundReturned) acceptedState :=
    .after (.of_init (Endpoint.fresh_init 0x81)) (by decide)
  have hin : endpointSystem.Reachable (AtLockStep RoundReturned) inState :=
    .after (.of_init (Endpoint.fresh_init 0x81)) (by decide)
  have hturn : ∀ q t q', q.Live → q.urbList.Nodup → q.sqs .fromDevice = some t →
      SqCredit t.sq 0 1 0 0 → EachReturned .fromDevice 1 q →
      (bceVhciTransferQueueCompletion .fromDevice).run q = .ok ((), q') →
      ∃ t', q'.sqs .fromDevice = some t' ∧ bceNextCompletion t'.sq = none ∧
        SlotsReturned t t' 1 := by
    intro q t q' hlive hnodup ht hc hreturned hrun
    obtain ⟨t', ht', hnone, hiff⟩ :=
      wp_ok ((transfer_slots_returned q .fromDevice t 1 0).1 hlive hnodup ht hc) hrun
    exact ⟨t', ht', hnone, hiff.mpr hreturned⟩
  refine ⟨?_, by decide, ?_⟩
  · have howned := reachable_owned haccepted
    have ht : acceptedState.q.sqs .fromDevice = some acceptedSq := (Option.some_get _).symm
    have hpending : acceptedSq.pending.length = 1 := by decide
    have hgiven : acceptedSq.posted.length + acceptedSq.inflight.length = 0 := by decide
    have hcredit : SqCredit acceptedSq.sq 0 1 0 0 := by
      have hbalanced : acceptedSq.Balanced := reachable_balanced haccepted .fromDevice _ ht
      rw [TransferSq.Balanced, hpending, hgiven] at hbalanced
      exact hbalanced
    have hreturned : Returned .fromDevice acceptedState.q := by decide
    have hruns : returned (bceVhciTransferQueueCompletion .fromDevice)
        acceptedState.q = some () := by
      decide +kernel
    exact hturn acceptedState.q acceptedSq
      (final (bceVhciTransferQueueCompletion .fromDevice) acceptedState.q) howned.live
      howned.urbList_nodup ht hcredit ⟨hreturned, fun _ _ _ => trivial⟩ (run_eq_final hruns)
  · let t := (inState.q.sqs .fromDevice).get (by decide)
    exact (transfer_slots_returned inState.q .fromDevice t 0 0).2 inState hin .fromDevice t
      (Option.some_get _).symm (by decide) (by decide) (by decide)

/-- The same URB cancelled before the device had anything for it: the pause
flushes its element, and the completion handler consumes the aborted completion. -/
def flushRun : List EndpointAction :=
  [.enqueue 0 ⟨true, 4, 0, 0⟩ 0, .lockStep, .dequeue 0 (-104), .startCancel 0 (-104),
    .workStep ⟨0, 0⟩ 0, .workStep ⟨0, 0⟩ 0, .workStep ⟨0, BCE_VHCI_ENDPOINT_PAUSED⟩ 0,
    .workStep ⟨0, 0⟩ 1, .accept .fromDevice, .completion .fromDevice, .lockStep, .lockStep,
    .lockStep, .lockStep]

def flushState : Endpoint := endpointSystem.after (fun _ _ => True) flushRun (.fresh 0x81)

/-- An aborted completion is consumed and its slot never given back. -/
theorem slot_lost_to_an_abort :
    ¬∀ s, endpointSystem.Reachable (fun _ _ => True) s → s.lock = [] → ∀ d t,
      s.q.sqs d = some t → t.inflight = [] → t.posted = [] → t.pending = [] →
        t.sq.head = t.sq.completionCidx ∧ t.sq.availableCommands = t.sq.elCount - 1 := by
  intro h
  have hreach : endpointSystem.Reachable (fun _ _ => True) flushState :=
    .after (.of_init (Endpoint.fresh_init 0x81)) (by decide)
  have hslots := h flushState hreach (by decide) .fromDevice
    ((flushState.q.sqs .fromDevice).get (by decide)) (Option.some_get _).symm
    (by decide) (by decide) (by decide)
  revert hslots
  decide

end BceDriver
