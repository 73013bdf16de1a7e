import BceDriver.Vhci.TransferSpec

/-!
# What handlers put on the submission queues

- `TransferSq.Added t es t'`: `t'` is `t` with the elements `es` submitted, one
  slot reserved for each.
- `Adds`: that is all that happened to both queues.

Every outcome of a handler adds, and adds for the URB it works on.
-/

namespace BceDriver

open FaultState

inductive TransferSq.Added (t : TransferSq) : List TransferElement → TransferSq → Prop where
  | refl : Added t [] t
  | waited {es : List TransferElement} {t₁ t₂ : TransferSq} : Added t es t₁ → t₁.Waited t₂ →
      Added t es t₂
  | put {es : List TransferElement} {t₁ : TransferSq} (e : TransferElement) : Added t es t₁ →
      0 < t₁.sq.availableCommands → Added t (es ++ [e]) (t₁.put e)

namespace TransferSq

variable {t t₁ t' : TransferSq} {es es' : List TransferElement} {e : TransferElement}

@[simp] theorem put_submitted : (t.put e).submitted = t.submitted ++ [e] := rfl
@[simp] theorem put_inflight : (t.put e).inflight = t.inflight ++ [e] := rfl
@[simp] theorem put_posted : (t.put e).posted = t.posted := rfl
@[simp] theorem put_pending : (t.put e).pending = t.pending := rfl
@[simp] theorem put_elCount : (t.put e).sq.elCount = t.sq.elCount := rfl

/-- A slot is reserved and handed out. -/
theorem put_credit {a b c : Nat} (h : SqCredit t.sq a b c 0) (hpos : 0 < t.sq.availableCommands) :
    SqCredit (t.put e).sq a b (c + 1) 0 :=
  (h.reserve hpos).next.of_eq rfl rfl rfl rfl rfl rfl

namespace Added

theorem of_waited (h : t.Waited t') : t.Added [] t' := .waited .refl h

theorem of_put (e : TransferElement) (hpos : 0 < t.sq.availableCommands) :
    t.Added [e] (t.put e) := .put e .refl hpos

theorem trans (h : t.Added es t₁) (h' : t₁.Added es' t') : t.Added (es ++ es') t' := by
  induction h' with
  | refl => rwa [List.append_nil]
  | waited _ hw ih => exact .waited ih hw
  | put e _ hpos ih =>
    rw [← List.append_assoc]
    exact .put e ih hpos

theorem submitted (h : t.Added es t') : t'.submitted = t.submitted ++ es := by
  induction h with
  | refl => rw [List.append_nil]
  | waited _ hw ih =>
    obtain ⟨tokens, waiting, rfl⟩ := hw
    exact ih
  | put e _ _ ih => rw [put_submitted, ih, List.append_assoc]

theorem inflight (h : t.Added es t') : t'.inflight = t.inflight ++ es := by
  induction h with
  | refl => rw [List.append_nil]
  | waited _ hw ih =>
    obtain ⟨tokens, waiting, rfl⟩ := hw
    exact ih
  | put e _ _ ih => rw [put_inflight, ih, List.append_assoc]

theorem posted (h : t.Added es t') : t'.posted = t.posted := by
  induction h with
  | refl => rfl
  | waited _ hw ih =>
    obtain ⟨tokens, waiting, rfl⟩ := hw
    exact ih
  | put e _ _ ih => exact ih

theorem pending (h : t.Added es t') : t'.pending = t.pending := by
  induction h with
  | refl => rfl
  | waited _ hw ih =>
    obtain ⟨tokens, waiting, rfl⟩ := hw
    exact ih
  | put e _ _ ih => exact ih

theorem elCount (h : t.Added es t') : t'.sq.elCount = t.sq.elCount := by
  induction h with
  | refl => rfl
  | waited _ hw ih =>
    obtain ⟨tokens, waiting, rfl⟩ := hw
    exact ih
  | put e _ _ ih => exact ih

/-- The device has as many slots more as elements were submitted. -/
theorem credit {a b c : Nat} (h : t.Added es t') (hc : SqCredit t.sq a b c 0) :
    SqCredit t'.sq a b (c + es.length) 0 := by
  induction h with
  | refl => exact hc
  | waited _ hw ih =>
    obtain ⟨tokens, waiting, rfl⟩ := hw
    exact ih.of_eq rfl rfl rfl rfl rfl rfl
  | put e _ hpos ih =>
    rw [List.length_append, ← Nat.add_assoc]
    exact put_credit ih hpos

end Added

end TransferSq

/-- Replacing a queue creates and destroys none. -/
theorem setSq_none {q : BceVhciTransferQueue} {d d' : DmaDataDirection} {t t' : TransferSq}
    (ht : q.sqs d = some t) : (q.setSq d t').sqs d' = none ↔ q.sqs d' = none := by
  by_cases hd : d' = d
  · subst hd
    simp [ht]
  · simp [hd]

/-- Elements for which `P` holds were submitted, and nothing else happened to
`sq_in` and `sq_out`. -/
def Adds (P : DmaDataDirection → TransferElement → Prop) (q q' : BceVhciTransferQueue) : Prop :=
  ∀ d, Option.Rel (fun t t' => ∃ es, t.Added es t' ∧ ∀ e ∈ es, P d e) (q.sqs d) (q'.sqs d)

namespace Adds

variable {P P' : DmaDataDirection → TransferElement → Prop} {q q₁ q' : BceVhciTransferQueue}
  {d : DmaDataDirection} {t t' : TransferSq}

theorem of_sqs (h : q'.sqs = q.sqs) : Adds P q q' := by
  intro d
  rw [h]
  cases q.sqs d with
  | none => exact .none
  | some t => exact .some ⟨[], .refl, by simp⟩

theorem refl (q : BceVhciTransferQueue) : Adds P q q := of_sqs rfl

theorem trans (h : Adds P q q₁) (h' : Adds P q₁ q') : Adds P q q' := by
  intro d
  have hd := h d
  have hd' := h' d
  revert hd hd'
  cases q.sqs d with
  | none =>
    intro hd hd'
    generalize q₁.sqs d = x at hd hd'
    cases hd
    exact hd'
  | some t =>
    intro hd hd'
    generalize q₁.sqs d = x at hd hd'
    cases hd with
    | some h₁ =>
      generalize q'.sqs d = x' at hd'
      cases hd' with
      | some h₂ =>
        obtain ⟨es, hadd, hP⟩ := h₁
        obtain ⟨es', hadd', hP'⟩ := h₂
        exact .some ⟨es ++ es', hadd.trans hadd', List.forall_mem_append.mpr ⟨hP, hP'⟩⟩

theorem mono (h : Adds P q q') (hP : ∀ d e, P d e → P' d e) : Adds P' q q' := by
  intro d
  have hd := h d
  revert hd
  generalize q.sqs d = x
  generalize q'.sqs d = x'
  rintro (⟨es, hadd, hes⟩ | _)
  · exact .some ⟨es, hadd, fun e he => hP d e (hes e he)⟩
  · exact .none

theorem of_setSq {es : List TransferElement} (ht : q.sqs d = some t) (h : t.Added es t')
    (hP : ∀ e ∈ es, P d e) : Adds P q (q.setSq d t') := by
  intro d'
  by_cases hd : d' = d
  · subst hd
    rw [ht, BceVhciTransferQueue.setSq_sqs, Function.update_self]
    exact .some ⟨es, h, hP⟩
  · rw [BceVhciTransferQueue.setSq_sqs, Function.update_of_ne hd]
    exact refl q d'

theorem of_waited (h : Waited q q') : Adds P q q' := by
  intro d
  cases ht : q.sqs d with
  | none =>
    rw [(h.none_iff d).mpr ht]
    exact .none
  | some t =>
    cases ht' : q'.sqs d with
    | none => simp [(h.none_iff d).mp ht'] at ht
    | some t' => exact .some ⟨[], .of_waited (h.sqs d t t' ht ht'), by simp⟩

/-- The queue that is there stays there. -/
theorem some (h : Adds P q q') (ht : q.sqs d = some t) :
    ∃ t' es, q'.sqs d = some t' ∧ t.Added es t' ∧ ∀ e ∈ es, P d e := by
  have hd := h d
  rw [ht] at hd
  generalize q'.sqs d = x' at hd
  cases hd with
  | some h' =>
    obtain ⟨es, hadd, hP⟩ := h'
    exact ⟨_, es, rfl, hadd, hP⟩

theorem none_iff (h : Adds P q q') : q'.sqs d = none ↔ q.sqs d = none := by
  have hd := h d
  generalize q'.sqs d = x' at hd
  generalize q.sqs d = x at hd
  cases hd with
  | some => simp
  | none => simp

end Adds

/-! ## What holds of both queues -/

/-- `P` holds of the queues that are there. -/
def EachSq (P : TransferSq → Prop) (q : BceVhciTransferQueue) : Prop :=
  ∀ d t, q.sqs d = some t → P t

section EachSq

variable {P : TransferSq → Prop} {P' : DmaDataDirection → TransferElement → Prop}
  {q q' : BceVhciTransferQueue} {d : DmaDataDirection} {t : TransferSq}

theorem EachSq.adds (h : EachSq P q) (hadd : ∀ t t' es, P t → t.Added es t' → P t')
    (hadds : Adds P' q q') : EachSq P q' := by
  intro d t' ht'
  cases ht : q.sqs d with
  | none => simp [hadds.none_iff.mpr ht] at ht'
  | some t =>
    obtain ⟨t₁, es, ht₁, hes, -⟩ := hadds.some ht
    obtain rfl := Option.some.inj (ht'.symm.trans ht₁)
    exact hadd t t' es (h d t ht) hes

theorem EachSq.setSq (h : EachSq P q) (ht : P t) : EachSq P (q.setSq d t) := by
  intro d' t' ht'
  by_cases hd : d' = d
  · subst hd
    obtain rfl : t = t' := by simpa using ht'
    exact ht
  · exact h d' t' (by simpa [hd] using ht')

end EachSq

section Effects

variable {q q' : BceVhciTransferQueue} {urb : Nat} {v : BceVhciUrb}

/-- The elements of one URB. -/
abbrev OwnedBy (urb : Nat) : DmaDataDirection → TransferElement → Prop := fun _ e => e.owner = urb

theorem settle_sqs (q : BceVhciTransferQueue) (urb u receivedStatus : Nat) :
    (q.settle urb u receivedStatus).sqs = q.sqs := by
  unfold BceVhciTransferQueue.settle
  split
  · rfl
  · rfl

theorem StartedIn.adds {timeout : Nat} (h : StartedIn timeout q urb v q') :
    Adds (OwnedBy urb) q q' := by
  obtain ⟨t, ht, hpos, hq'⟩ := h.slot
  rw [hq']
  refine (Adds.of_setSq ht (.of_put (inElement q urb v) hpos) ?_).trans (.of_sqs rfl)
  simp [inElement]

theorem UpdateEffect.adds {msg : BceVhciMessage} {r : Int} (h : UpdateEffect q urb v msg r q') :
    Adds (OwnedBy urb) q q' := by
  cases h with
  | deferred => exact .refl q
  | refused => exact .refl q
  | @setup t _ _ _ ht hpos =>
    refine (Adds.of_setSq ht (.of_put (setupElement q urb v) hpos) ?_).trans (.of_sqs rfl)
    simp [setupElement]
  | @out t _ _ ht hpos =>
    refine (Adds.of_setSq ht (.of_put (outElement q urb v msg.param2) hpos) ?_).trans (.of_sqs rfl)
    simp [outElement]
  | @outSettled t _ _ _ ht hpos =>
    refine (Adds.of_setSq ht (.of_put (outElement q urb v msg.param2) hpos) ?_).trans
      (.of_sqs (settle_sqs ..))
    simp [outElement]
  | status => exact .of_sqs rfl
  | settled => exact .of_sqs (settle_sqs ..)

theorem CompletionEffect.adds {c : BceSqCompletionData} (h : CompletionEffect q urb v c q') :
    Adds (OwnedBy urb) q q' := by
  cases h with
  | ignored => exact .refl q
  | progress => exact .of_sqs rfl
  | dataDone => exact .of_sqs rfl
  | done => exact .of_sqs rfl
  | doneSettled => exact .of_sqs (settle_sqs ..)
  | settled => exact .of_sqs (settle_sqs ..)
  | startedIn _ _ _ h => exact h.adds
  | startFailed _ _ _ h => exact (Adds.of_waited h.waited).trans (.of_sqs rfl)
  | startedOut => exact .of_sqs rfl

theorem InitEffect.adds {r : Int} (h : InitEffect q urb v r q') : Adds (OwnedBy urb) q q' := by
  cases h with
  | control => exact .of_sqs rfl
  | out => exact .of_sqs rfl
  | startedIn _ _ h => exact h.adds
  | failed _ _ h => exact .of_waited h.waited

theorem ResumeEffect.adds (h : ResumeEffect q urb v q') : Adds (OwnedBy urb) q q' := by
  cases h with
  | unchanged => exact .refl q
  | init _ h => exact h.adds
  | restarted _ h => exact h.adds
  | failed _ h => exact (Adds.of_waited h.waited).trans (.of_sqs rfl)

end Effects

end BceDriver
