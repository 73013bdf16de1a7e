import BceDriver.Queue.Credit

/-!
# Counting what goes through a submission queue

`SqCounts sq n k` reads the indices of a queue of `n` elements as totals since
its allocation: `submitted` elements were handed out, `rung` of them are known to
the device, `completed` were completed, `consumed` of the completions were taken
by `bce_next_completion`, and `notified` slots given back.

An index is its total modulo `n`, and the credit bounds the elements between
`notified` and `submitted` by `n - 1`: so equal indices are equal totals, and each
operation of `queue.c` counts up one of them.
-/

namespace BceDriver

open RingIndex

/-- An entry of a record with one more. -/
theorem getElem?_concat {α : Type} {xs : List α} {x y : α} {k : Nat}
    (h : (xs ++ [x])[k]? = some y) : xs[k]? = some y ∨ k = xs.length ∧ y = x := by
  rcases Nat.lt_trichotomy k xs.length with hlt | rfl | hgt
  · exact .inl ((List.getElem?_append_left hlt).symm.trans h)
  · exact .inr ⟨rfl, Option.some.inj (h.symm.trans List.getElem?_concat_length)⟩
  · rw [List.getElem?_eq_none (by simpa [Nat.succ_le_iff] using hgt)] at h
    cases h

/-- The totals of a queue, and the reservations not used yet. -/
structure SqTotals where
  submitted : Nat
  rung : Nat
  completed : Nat
  consumed : Nat
  notified : Nat
  held : Nat
deriving DecidableEq, Repr

structure SqCounts (sq : BceQueueSq) (n : Nat) (k : SqTotals) : Prop where
  elCount : sq.elCount = n
  tail : sq.tail = k.submitted % n
  doorbell : sq.doorbell = k.rung % n
  completionTail : sq.completionTail = k.completed % n
  completionCidx : sq.completionCidx = k.consumed % n
  head : sq.head = k.notified % n
  rung_le : k.rung ≤ k.submitted
  completed_le : k.completed ≤ k.rung
  consumed_le : k.consumed ≤ k.completed
  notified_le : k.notified ≤ k.consumed
  credit : sq.availableCommands + k.held + k.submitted = k.notified + (n - 1 : Int)
  available_nonneg : 0 ≤ sq.availableCommands

/-- What the totals are read from is as it was. -/
structure SameIndices (sq sq' : BceQueueSq) : Prop where
  elCount : sq'.elCount = sq.elCount
  tail : sq'.tail = sq.tail
  doorbell : sq'.doorbell = sq.doorbell
  completionTail : sq'.completionTail = sq.completionTail
  completionCidx : sq'.completionCidx = sq.completionCidx
  head : sq'.head = sq.head
  availableCommands : sq'.availableCommands = sq.availableCommands

namespace SqCounts

variable {sq sq' : BceQueueSq} {n : Nat} {k : SqTotals}

theorem of_same (h : SqCounts sq n k) (hsame : SameIndices sq sq') : SqCounts sq' n k where
  elCount := hsame.elCount.trans h.elCount
  tail := hsame.tail.trans h.tail
  doorbell := hsame.doorbell.trans h.doorbell
  completionTail := hsame.completionTail.trans h.completionTail
  completionCidx := hsame.completionCidx.trans h.completionCidx
  head := hsame.head.trans h.head
  rung_le := h.rung_le
  completed_le := h.completed_le
  consumed_le := h.consumed_le
  notified_le := h.notified_le
  credit := by rw [hsame.availableCommands]; exact h.credit
  available_nonneg := by rw [hsame.availableCommands]; exact h.available_nonneg

/-- The elements not given back and the reservations fit in the credit. -/
theorem window (h : SqCounts sq n k) : k.submitted + k.held < k.notified + n := by
  have hcredit := h.credit
  have hfree := h.available_nonneg
  omega

theorem init {qid : Nat} (hn : 0 < n) : SqCounts (bceAllocSq qid n) n ⟨0, 0, 0, 0, 0, 0⟩ where
  elCount := rfl
  tail := (Nat.zero_mod n).symm
  doorbell := (Nat.zero_mod n).symm
  completionTail := (Nat.zero_mod n).symm
  completionCidx := (Nat.zero_mod n).symm
  head := (Nat.zero_mod n).symm
  rung_le := Nat.le_refl 0
  completed_le := Nat.le_refl 0
  consumed_le := Nat.le_refl 0
  notified_le := Nat.le_refl 0
  credit := by simp [bceAllocSq]
  available_nonneg := by simp only [bceAllocSq]; omega

/-! ## Each operation -/

theorem reserve (h : SqCounts sq n k) (hpos : 0 < sq.availableCommands) :
    SqCounts { sq with availableCommands := sq.availableCommands - 1 } n
      { k with held := k.held + 1 } :=
  { h with
    credit := by
      have hcredit := h.credit
      dsimp only
      omega
    available_nonneg := by dsimp only; omega }

theorem cancel (h : SqCounts sq n k) (hheld : 0 < k.held) :
    SqCounts (bceCancelSubmissionReservation sq) n { k with held := k.held - 1 } :=
  { h with
    credit := by
      have hcredit := h.credit
      simp only [bceCancelSubmissionReservation]
      omega
    available_nonneg := by
      have hfree := h.available_nonneg
      simp only [bceCancelSubmissionReservation]
      omega }

/-- A reservation becomes an element; its slot is the total handed out before. -/
theorem next (h : SqCounts sq n k) (hheld : 0 < k.held) :
    SqCounts (bceNextSubmission sq).2 n
      { k with submitted := k.submitted + 1, held := k.held - 1 } :=
  { h with
    tail := by
      show (sq.tail + 1) % sq.elCount = (k.submitted + 1) % n
      rw [h.tail, h.elCount, Nat.mod_add_mod]
    rung_le := Nat.le_succ_of_le h.rung_le
    credit := by
      have hcredit := h.credit
      show sq.availableCommands + ((k.held - 1 : Nat) : Int) + ((k.submitted + 1 : Nat) : Int) =
        k.notified + (n - 1 : Int)
      omega }

/-- The device is told of every element handed out. -/
theorem submit (h : SqCounts sq n k) :
    SqCounts (bceSubmitToDevice sq) n { k with rung := k.submitted } :=
  { h with
    doorbell := h.tail
    rung_le := Nat.le_refl _
    completed_le := Nat.le_trans h.completed_le h.rung_le }

/-- There is an element to complete when the doorbell says so. -/
theorem completed_lt (h : SqCounts sq n k) (hne : sq.completionTail ≠ sq.doorbell) :
    k.completed < k.rung := by
  refine Nat.lt_of_le_of_ne h.completed_le fun heq => hne ?_
  rw [h.completionTail, h.doorbell, heq]

theorem store (h : SqCounts sq n k) (hlt : k.completed < k.rung) (e : BceQeCompletion) :
    SqCounts (bceStoreCompletion sq e) n { k with completed := k.completed + 1 } :=
  { h with
    completionTail := by
      show (sq.completionTail + 1) % sq.elCount = (k.completed + 1) % n
      rw [h.completionTail, h.elCount, Nat.mod_add_mod]
    completed_le := hlt
    consumed_le := Nat.le_succ_of_le h.consumed_le }

/-- `bce_next_completion` finds nothing exactly when all completions are taken. -/
theorem nextCompletion_none_iff (h : SqCounts sq n k) :
    bceNextCompletion sq = none ↔ k.consumed = k.completed := by
  have hwindow := h.window
  have hnotified := h.notified_le
  have hconsumed := h.consumed_le
  have hcompleted := h.completed_le
  have hrung := h.rung_le
  have hiff : sq.completionCidx = sq.completionTail ↔ k.consumed = k.completed := by
    rw [h.completionCidx, h.completionTail]
    constructor
    · intro heq
      exact eq_of_mod_eq heq hnotified (by omega) (Nat.le_trans hnotified hconsumed) (by omega)
    · intro heq
      rw [heq]
  unfold bceNextCompletion
  rw [← hiff]
  split
  · next heq => exact iff_of_true rfl heq
  · next hne => exact iff_of_false (Option.some_ne_none _) hne

theorem consume (h : SqCounts sq n k) {d : BceSqCompletionData}
    (hnext : bceNextCompletion sq = some (d, sq')) :
    k.consumed < k.completed ∧ d = sq.completionData (k.consumed % n) ∧
      sq' = { sq with completionCidx := (sq.completionCidx + 1) % sq.elCount } ∧
      SqCounts sq' n { k with consumed := k.consumed + 1 } := by
  have hlt : k.consumed < k.completed := by
    refine Nat.lt_of_le_of_ne h.consumed_le fun heq => ?_
    rw [h.nextCompletion_none_iff.mpr heq] at hnext
    cases hnext
  unfold bceNextCompletion at hnext
  split at hnext
  · cases hnext
  · cases hnext
    refine ⟨hlt, by rw [h.completionCidx], rfl, ?_⟩
    exact { h with
      completionCidx := by
        show (sq.completionCidx + 1) % sq.elCount = (k.consumed + 1) % n
        rw [h.completionCidx, h.elCount, Nat.mod_add_mod]
      consumed_le := hlt
      notified_le := Nat.le_succ_of_le h.notified_le }

/-- Giving back the slot at `head`. -/
theorem release (h : SqCounts sq n k) (hlt : k.notified < k.consumed) :
    SqCounts
      { sq with head := (sq.head + 1) % sq.elCount, availableCommands := sq.availableCommands + 1 }
      n { k with notified := k.notified + 1 } :=
  { h with
    head := by
      show (sq.head + 1) % sq.elCount = (k.notified + 1) % n
      rw [h.head, h.elCount, Nat.mod_add_mod]
    notified_le := hlt
    credit := by
      have hcredit := h.credit
      dsimp only
      push_cast
      omega
    available_nonneg := by
      have hfree := h.available_nonneg
      dsimp only
      omega }

theorem notify (h : SqCounts sq n k) (hlt : k.notified < k.consumed) :
    SqCounts (bceNotifySubmissionComplete sq) n { k with notified := k.notified + 1 } := by
  rw [bceNotifySubmissionComplete_eq]
  exact (h.release hlt).of_same ⟨rfl, rfl, rfl, rfl, rfl, rfl, rfl⟩

end SqCounts

end BceDriver
