import BceDriver.Queue.Basic
import BceDriver.Lib.StepSystem

/-!
# The credit of a submission queue

`SqCredit sq a b c held` is what every caller of the queue relies on: going
round the ring from `head`, the next `a` slots hold completions the driver has
consumed and not yet notified, the next `b` completions it has accepted and
not consumed, the next `c` elements the device still owns, and the remaining
slots but one are either free credit or one of `held` reservations. The `n - 1`
credit is what keeps a full ring apart from an empty one.

Each operation of `queue.c` moves one unit between two of these counts
(`SqCredit.reserve` … `SqCredit.notify`); `creditSystem` lets them run in any
order and `credit_reachable` is the resulting invariant of every run.
-/

namespace BceDriver

open RingIndex

structure SqCredit (sq : BceQueueSq) (a b c held : Nat) : Prop where
  head_lt : sq.head < sq.elCount
  cidx : sq.completionCidx = advance sq.elCount sq.head a
  ctail : sq.completionTail = advance sq.elCount sq.head (a + b)
  tail : sq.tail = advance sq.elCount sq.head (a + b + c)
  credit : sq.availableCommands + held + ((a + b + c : Nat) : Int) = sq.elCount - 1
  available_nonneg : 0 ≤ sq.availableCommands

/-! ## What each operation does to the counters -/

/-- The three ways a call of `bce_reserve_submission` goes up to its first wait. -/
theorem bceReserveSubmission_cases (sq : BceQueueSq) (timeout : Nat) :
    (0 < sq.availableCommands ∧
      bceReserveSubmission sq timeout =
        (.returned 0, { sq with availableCommands := sq.availableCommands - 1 })) ∨
    (sq.availableCommands ≤ 0 ∧ timeout = 0 ∧
      bceReserveSubmission sq timeout = (.returned (-EAGAIN), sq)) ∨
    (sq.availableCommands ≤ 0 ∧ timeout ≠ 0 ∧
      bceReserveSubmission sq timeout =
        (.waiting, { sq with
          availableCommandCompletionWaitingCount :=
            sq.availableCommandCompletionWaitingCount + 1 })) := by
  rcases Int.lt_or_le 0 sq.availableCommands with h | h
  · refine .inl ⟨h, ?_⟩
    simp [bceReserveSubmission, atomicDecIfPositive_of_pos h,
      show ¬sq.availableCommands < 1 by omega]
  · by_cases ht : timeout = 0
    · refine .inr (.inl ⟨h, ht, ?_⟩)
      simp [bceReserveSubmission, atomicDecIfPositive_of_le h, ht,
        show sq.availableCommands < 1 by omega]
    · refine .inr (.inr ⟨h, ht, ?_⟩)
      simp [bceReserveSubmission, atomicDecIfPositive_of_le h, ht,
        show sq.availableCommands < 1 by omega]

@[simp] theorem bceReserveSubmission_of_pos {sq : BceQueueSq} (h : 0 < sq.availableCommands)
    (timeout : Nat) :
    bceReserveSubmission sq timeout =
      (.returned 0, { sq with availableCommands := sq.availableCommands - 1 }) := by
  rcases bceReserveSubmission_cases sq timeout with h' | h' | h'
  · exact h'.2
  · omega
  · omega

/-- A call that has returned waits no more. -/
@[simp] theorem bceReserveSubmissionThrough_returned (ws : List Wakeup) (status : Int)
    (sq : BceQueueSq) (timeout : Nat) :
    bceReserveSubmissionThrough ws (.returned status, sq) timeout = (status, sq, timeout, ws) := by
  cases ws with
  | nil => rfl
  | cons w ws => rfl

theorem bceReserveSubmission_zero_of_le {sq : BceQueueSq} (h : sq.availableCommands ≤ 0) :
    bceReserveSubmission sq 0 = (.returned (-EAGAIN), sq) := by
  rcases bceReserveSubmission_cases sq 0 with h' | h' | h'
  · omega
  · exact h'.2.2
  · exact absurd rfl h'.2.1

/-- `bce_notify_submission_complete` moves `head` and the credit; what else it
does is wake a waiter. -/
theorem bceNotifySubmissionComplete_eq (sq : BceQueueSq) :
    bceNotifySubmissionComplete sq =
      { sq with
        head := (sq.head + 1) % sq.elCount
        availableCommands := sq.availableCommands + 1
        availableCommandCompletion := (bceNotifySubmissionComplete sq).availableCommandCompletion
        availableCommandCompletionWaitingCount :=
          (bceNotifySubmissionComplete sq).availableCommandCompletionWaitingCount } := by
  unfold bceNotifySubmissionComplete
  dsimp only
  split
  · rfl
  · rfl

section Notify

variable (sq : BceQueueSq)

@[simp] theorem bceNotifySubmissionComplete_head :
    (bceNotifySubmissionComplete sq).head = (sq.head + 1) % sq.elCount := by
  rw [bceNotifySubmissionComplete_eq]

@[simp] theorem bceNotifySubmissionComplete_availableCommands :
    (bceNotifySubmissionComplete sq).availableCommands = sq.availableCommands + 1 := by
  rw [bceNotifySubmissionComplete_eq]

@[simp] theorem bceNotifySubmissionComplete_elCount :
    (bceNotifySubmissionComplete sq).elCount = sq.elCount := by
  rw [bceNotifySubmissionComplete_eq]

@[simp] theorem bceNotifySubmissionComplete_tail :
    (bceNotifySubmissionComplete sq).tail = sq.tail := by
  rw [bceNotifySubmissionComplete_eq]

@[simp] theorem bceNotifySubmissionComplete_data :
    (bceNotifySubmissionComplete sq).data = sq.data := by
  rw [bceNotifySubmissionComplete_eq]

@[simp] theorem bceNotifySubmissionComplete_completionCidx :
    (bceNotifySubmissionComplete sq).completionCidx = sq.completionCidx := by
  rw [bceNotifySubmissionComplete_eq]

@[simp] theorem bceNotifySubmissionComplete_completionTail :
    (bceNotifySubmissionComplete sq).completionTail = sq.completionTail := by
  rw [bceNotifySubmissionComplete_eq]

@[simp] theorem bceNotifySubmissionComplete_completionData :
    (bceNotifySubmissionComplete sq).completionData = sq.completionData := by
  rw [bceNotifySubmissionComplete_eq]

end Notify

namespace SqCredit

variable {sq sq' : BceQueueSq} {a b c held : Nat}

/-- Only the ring indices and the credit counter matter. -/
theorem of_eq (h : SqCredit sq a b c held) (hn : sq'.elCount = sq.elCount)
    (hh : sq'.head = sq.head) (hi : sq'.completionCidx = sq.completionCidx)
    (ht : sq'.completionTail = sq.completionTail) (htl : sq'.tail = sq.tail)
    (hv : sq'.availableCommands = sq.availableCommands) : SqCredit sq' a b c held where
  head_lt := by rw [hh, hn]; exact h.head_lt
  cidx := by rw [hi, hn, hh]; exact h.cidx
  ctail := by rw [ht, hn, hh]; exact h.ctail
  tail := by rw [htl, hn, hh]; exact h.tail
  credit := by rw [hv, hn]; exact h.credit
  available_nonneg := by rw [hv]; exact h.available_nonneg

theorem elCount_pos (h : SqCredit sq a b c held) : 0 < sq.elCount := by
  have := h.head_lt
  omega

theorem occupied_lt (h : SqCredit sq a b c held) : a + b + c < sq.elCount := by
  have h1 := h.credit
  have h2 := h.available_nonneg
  omega

theorem init {qid n : Nat} (hn : 0 < n) : SqCredit (bceAllocSq qid n) 0 0 0 0 where
  head_lt := hn
  cidx := (advance_zero hn).symm
  ctail := (advance_zero hn).symm
  tail := (advance_zero hn).symm
  credit := by simp [bceAllocSq]
  available_nonneg := by simp only [bceAllocSq]; omega

theorem reserve (h : SqCredit sq a b c held) (hpos : 0 < sq.availableCommands) :
    SqCredit { sq with availableCommands := sq.availableCommands - 1 } a b c (held + 1) where
  head_lt := h.head_lt
  cidx := h.cidx
  ctail := h.ctail
  tail := h.tail
  credit := by
    have h1 := h.credit
    dsimp only
    omega
  available_nonneg := by simp only; omega

theorem cancel (h : SqCredit sq a b c (held + 1)) :
    SqCredit (bceCancelSubmissionReservation sq) a b c held where
  head_lt := h.head_lt
  cidx := h.cidx
  ctail := h.ctail
  tail := h.tail
  credit := by
    have h1 := h.credit
    simp only [bceCancelSubmissionReservation]
    omega
  available_nonneg := by
    have h2 := h.available_nonneg
    simp only [bceCancelSubmissionReservation]
    omega

/-- A reservation becomes a slot the device owns. -/
theorem next (h : SqCredit sq a b c (held + 1)) :
    SqCredit (bceNextSubmission sq).2 a b (c + 1) held where
  head_lt := h.head_lt
  cidx := h.cidx
  ctail := h.ctail
  tail := by
    show (sq.tail + 1) % sq.elCount = _
    rw [h.tail, advance_succ]
    rfl
  credit := by
    have h1 := h.credit
    simp only [bceNextSubmission]
    omega
  available_nonneg := h.available_nonneg

/-- The device completes the oldest slot it owns. -/
theorem store (h : SqCredit sq a b (c + 1) held) (e : BceQeCompletion) :
    SqCredit (bceStoreCompletion sq e) a (b + 1) c held where
  head_lt := h.head_lt
  cidx := h.cidx
  ctail := by
    show (sq.completionTail + 1) % sq.elCount = _
    rw [h.ctail, advance_succ]
    rfl
  tail := by
    show sq.tail = _
    rw [h.tail, show a + b + (c + 1) = a + (b + 1) + c by omega]
    rfl
  credit := by
    have h1 := h.credit
    simp only [bceStoreCompletion]
    omega
  available_nonneg := h.available_nonneg

/-- `bce_next_completion` finds nothing exactly when nothing accepted is left. -/
theorem next_completion_none_iff (h : SqCredit sq a b c held) :
    bceNextCompletion sq = none ↔ b = 0 := by
  have hlt := h.occupied_lt
  have hiff : sq.completionCidx = sq.completionTail ↔ b = 0 := by
    constructor
    · intro heq
      rw [h.cidx, h.ctail] at heq
      have := advance_inj h.head_lt (by omega) (by omega) heq
      omega
    · rintro rfl
      rw [h.cidx, h.ctail]
      rfl
  unfold bceNextCompletion
  by_cases hb : sq.completionCidx = sq.completionTail
  · simp [hb, hiff.mp hb]
  · simp [hb, mt hiff.mpr hb]

/-- Consuming a completion. -/
theorem next_completion (h : SqCredit sq a (b + 1) c held) :
    ∃ d sq', bceNextCompletion sq = some (d, sq') ∧ d = sq.completionData sq.completionCidx ∧
      sq' = { sq with completionCidx := (sq.completionCidx + 1) % sq.elCount } ∧
      SqCredit sq' (a + 1) b c held := by
  have hne : sq.completionCidx ≠ sq.completionTail := by
    intro heq
    have := h.next_completion_none_iff.mp (by simp [bceNextCompletion, heq])
    omega
  refine ⟨_, _, by simp [bceNextCompletion, hne], rfl, rfl, ?_⟩
  exact {
    head_lt := h.head_lt
    cidx := by
      show (sq.completionCidx + 1) % sq.elCount = _
      rw [h.cidx, advance_succ]
    ctail := by
      show sq.completionTail = _
      rw [h.ctail, show a + (b + 1) = a + 1 + b by omega]
    tail := by
      show sq.tail = _
      rw [h.tail, show a + (b + 1) + c = a + 1 + b + c by omega]
    credit := by
      have h1 := h.credit
      dsimp only
      omega
    available_nonneg := h.available_nonneg }

/-- Giving back the slot at `head`. -/
theorem release (h : SqCredit sq (a + 1) b c held) :
    SqCredit
      { sq with head := (sq.head + 1) % sq.elCount, availableCommands := sq.availableCommands + 1 }
      a b c held where
  head_lt := Nat.mod_lt _ h.elCount_pos
  cidx := by
    show sq.completionCidx = advance sq.elCount (advance sq.elCount sq.head 1) a
    rw [h.cidx, advance_advance, Nat.add_comm 1 a]
  ctail := by
    show sq.completionTail = advance sq.elCount (advance sq.elCount sq.head 1) (a + b)
    rw [h.ctail, advance_advance, show 1 + (a + b) = a + 1 + b by omega]
  tail := by
    show sq.tail = advance sq.elCount (advance sq.elCount sq.head 1) (a + b + c)
    rw [h.tail, advance_advance, show 1 + (a + b + c) = a + 1 + b + c by omega]
  credit := by
    have h1 := h.credit
    dsimp only
    omega
  available_nonneg := by
    have h2 := h.available_nonneg
    simp only
    omega

/-- `bce_notify_submission_complete` gives back a slot; the other fields it writes
belong to the wait protocol. -/
theorem notify (h : SqCredit sq (a + 1) b c held) :
    SqCredit (bceNotifySubmissionComplete sq) a b c held := by
  rw [bceNotifySubmissionComplete_eq]
  exact h.release.of_eq rfl rfl rfl rfl rfl rfl

/-- The occupied part of the ring is what lies between `head` and `tail`. -/
theorem dist_tail (h : SqCredit sq a b c held) : dist sq.elCount sq.head sq.tail = a + b + c := by
  rw [h.tail, dist_advance h.head_lt h.occupied_lt]

theorem dist_ctail (h : SqCredit sq a b c held) :
    dist sq.elCount sq.head sq.completionTail = a + b := by
  have := h.occupied_lt
  rw [h.ctail, dist_advance h.head_lt (by omega)]

theorem dist_cidx (h : SqCredit sq a b c held) :
    dist sq.elCount sq.head sq.completionCidx = a := by
  have := h.occupied_lt
  rw [h.cidx, dist_advance h.head_lt (by omega)]

end SqCredit

/-! ## Every run -/

/-- The operations on one queue. A label carries what its caller, the device
or the scheduler chooses. -/
inductive CreditOp where
  | reserve (timeout : Nat)
  /-- the wait of the `i`-th blocked `bce_reserve_submission` returns `left` -/
  | wake (i left : Nat)
  | cancel
  | next
  | submit
  | complete (e : BceQeCompletion)
  | consume
  | notify

structure CreditState where
  sq : BceQueueSq
  /-- the timeouts of the calls blocked in `bce_reserve_submission` -/
  blocked : List Nat
  /-- reservations taken and neither cancelled nor used -/
  held : Nat
  /-- the slots handed out and not yet notified, oldest first -/
  busy : List Nat
  accepted : Nat
  taken : Nat
  notified : Nat

/-- The end of a call of `bce_reserve_submission`, or its next wait. -/
def CreditState.reserved (s : CreditState) (timeout : Nat) :
    ReserveProgress × BceQueueSq → CreditState
  | (.returned status, sq) => { s with sq, held := if status = 0 then s.held + 1 else s.held }
  | (.waiting, sq) => { s with sq, blocked := s.blocked ++ [timeout] }

def creditStep : CreditOp → CreditState → Option CreditState
  | .reserve timeout, s => some (s.reserved timeout (bceReserveSubmission s.sq timeout))
  | .wake i left, s =>
    match s.blocked[i]? with
    | none => none
    | some timeout =>
      -- a wait that did not time out has taken one token
      if left ≤ timeout ∧ (left ≠ 0 → 0 < s.sq.availableCommandCompletion) then
        let sq := { s.sq with
          availableCommandCompletion :=
            s.sq.availableCommandCompletion - (if left = 0 then 0 else 1) }
        some (({ s with blocked := s.blocked.eraseIdx i }).reserved left
          (bceReserveSubmissionWake sq left))
      else none
  | .cancel, s =>
    if 0 < s.held then
      some { s with sq := bceCancelSubmissionReservation s.sq, held := s.held - 1 }
    else none
  | .next, s =>
    if 0 < s.held then
      let (slot, sq) := bceNextSubmission s.sq
      some { s with sq, held := s.held - 1, busy := s.busy ++ [slot] }
    else none
  | .submit, s => some { s with sq := bceSubmitToDevice s.sq }
  | .complete e, s =>
    -- the device reports an element it was given and has not completed
    if e.completionIndex < s.sq.elCount ∧
        dist s.sq.elCount s.sq.completionTail e.completionIndex <
          dist s.sq.elCount s.sq.completionTail s.sq.tail then
      if s.sq.completionTail ≠ e.completionIndex then
        some s
      else
        some { s with sq := bceStoreCompletion s.sq e, accepted := s.accepted + 1 }
    else none
  | .consume, s =>
    match bceNextCompletion s.sq with
    | none => some s
    | some (_, sq) => some { s with sq, taken := s.taken + 1 }
  | .notify, s =>
    if s.notified < s.taken then
      some { s with
        sq := bceNotifySubmissionComplete s.sq
        notified := s.notified + 1
        busy := s.busy.tail }
    else none

/-- The runs of a queue of `n` elements, from its allocation. -/
def creditSystem (n : Nat) : StepSystem CreditState CreditOp where
  init s := ∃ qid, s = ⟨bceAllocSq qid n, [], 0, [], 0, 0, 0⟩
  step := creditStep

/-- The invariant of a run: the four counts are the ring's, and the busy slots
are the ones from `head` up to `tail`. -/
structure CreditInv (n : Nat) (s : CreditState) : Prop where
  elCount : s.sq.elCount = n
  notified_le : s.notified ≤ s.taken
  taken_le : s.taken ≤ s.accepted
  ring : ∃ c, SqCredit s.sq (s.taken - s.notified) (s.accepted - s.taken) c s.held ∧
    s.busy = (List.range (s.accepted - s.notified + c)).map (advance n s.sq.head)

theorem creditInv_init {n : Nat} (hn : 0 < n) {s : CreditState}
    (h : (creditSystem n).init s) : CreditInv n s := by
  obtain ⟨qid, rfl⟩ := h
  exact ⟨rfl, Nat.le_refl _, Nat.le_refl _, 0, .init hn, rfl⟩

/-- Both halves of `bce_reserve_submission` keep the invariant: a granted call
turns credit into a reservation, a refused or waiting one leaves the ring. -/
theorem creditInv_reserved {n : Nat} {s : CreditState} (h : CreditInv n s) (timeout : Nat) :
    CreditInv n (s.reserved timeout (bceReserveSubmission s.sq timeout)) := by
  obtain ⟨c, hring, hbusy⟩ := h.ring
  rcases bceReserveSubmission_cases s.sq timeout with ⟨hpos, heq⟩ | ⟨-, -, heq⟩ | ⟨-, -, heq⟩
  · rw [heq]
    exact ⟨h.elCount, h.notified_le, h.taken_le, c, hring.reserve hpos, hbusy⟩
  · rw [heq]
    exact ⟨h.elCount, h.notified_le, h.taken_le, c, hring, hbusy⟩
  · rw [heq]
    exact ⟨h.elCount, h.notified_le, h.taken_le, c,
      hring.of_eq rfl rfl rfl rfl rfl rfl, hbusy⟩

/-- The fields only the wait protocol uses do not matter to the invariant. -/
theorem CreditInv.of_wait_fields {n : Nat} {s : CreditState} (h : CreditInv n s)
    (tokens : Nat) (waiting : Int) (blocked : List Nat) :
    CreditInv n { s with
      blocked
      sq := { s.sq with
        availableCommandCompletion := tokens
        availableCommandCompletionWaitingCount := waiting } } := by
  obtain ⟨c, hring, hbusy⟩ := h.ring
  exact ⟨h.elCount, h.notified_le, h.taken_le, c, hring.of_eq rfl rfl rfl rfl rfl rfl, hbusy⟩

/-- What the wait protocol does before the next attempt touches only its own
fields. -/
theorem bceReserveSubmissionWake_eq (sq : BceQueueSq) (left : Nat) :
    ∃ tokens waiting, bceReserveSubmissionWake sq left =
      bceReserveSubmission { sq with
        availableCommandCompletion := tokens
        availableCommandCompletionWaitingCount := waiting } left := by
  unfold bceReserveSubmissionWake
  split
  · dsimp only
    split
    · exact ⟨_, _, rfl⟩
    · exact ⟨_, _, rfl⟩
  · exact ⟨_, _, rfl⟩

theorem creditInv_step {n : Nat} {l : CreditOp} {s s' : CreditState} (h : CreditInv n s)
    (hstep : creditStep l s = some s') : CreditInv n s' := by
  obtain ⟨c, hring, hbusy⟩ := h.ring
  have hnot := h.notified_le
  have htak := h.taken_le
  cases l with
  | reserve timeout =>
    cases hstep
    exact creditInv_reserved h timeout
  | wake i left =>
    simp only [creditStep] at hstep
    split at hstep
    · cases hstep
    · split at hstep
      · cases hstep
        obtain ⟨tokens, waiting, heq⟩ := bceReserveSubmissionWake_eq { s.sq with
          availableCommandCompletion :=
            s.sq.availableCommandCompletion - (if left = 0 then 0 else 1) } left
        rw [heq]
        exact creditInv_reserved (h.of_wait_fields tokens waiting (s.blocked.eraseIdx i)) left
      · cases hstep
  | cancel =>
    simp only [creditStep] at hstep
    split at hstep
    · cases hstep
      rename_i hheld
      obtain ⟨k, hk⟩ := Nat.exists_eq_add_of_lt hheld
      rw [show s.held = k + 1 by omega] at hring
      refine ⟨h.elCount, hnot, htak, c, ?_, hbusy⟩
      show SqCredit _ _ _ _ (s.held - 1)
      rw [show s.held - 1 = k by omega]
      exact hring.cancel
    · cases hstep
  | next =>
    simp only [creditStep] at hstep
    split at hstep
    · cases hstep
      rename_i hheld
      obtain ⟨k, hk⟩ := Nat.exists_eq_add_of_lt hheld
      rw [show s.held = k + 1 by omega] at hring
      refine ⟨h.elCount, hnot, htak, c + 1, ?_, ?_⟩
      · show SqCredit _ _ _ _ (s.held - 1)
        rw [show s.held - 1 = k by omega]
        exact hring.next
      · show s.busy ++ [s.sq.tail] = _
        have htail : s.sq.tail = advance n s.sq.head (s.accepted - s.notified + c) := by
          rw [hring.tail, h.elCount]
          congr 1
          omega
        rw [hbusy, htail, ← Nat.add_assoc, List.range_succ, List.map_append]
        rfl
    · cases hstep
  | submit =>
    cases hstep
    exact ⟨h.elCount, hnot, htak, c, hring.of_eq rfl rfl rfl rfl rfl rfl, hbusy⟩
  | complete e =>
    simp only [creditStep] at hstep
    split at hstep
    · rename_i hflight
      split at hstep
      · cases hstep
        exact h
      · cases hstep
        -- an element in flight exists, so the device owns at least one slot
        have hc : c ≠ 0 := by
          rintro rfl
          have hempty : dist s.sq.elCount s.sq.completionTail s.sq.tail = 0 := by
            rw [hring.ctail, hring.tail, Nat.add_zero]
            exact dist_self hring.elCount_pos
          omega
        obtain ⟨k, rfl⟩ := Nat.exists_eq_succ_of_ne_zero hc
        refine ⟨h.elCount, hnot, by show s.taken ≤ s.accepted + 1; omega, k, ?_, ?_⟩
        · show SqCredit _ (s.taken - s.notified) (s.accepted + 1 - s.taken) _ _
          rw [show s.accepted + 1 - s.taken = s.accepted - s.taken + 1 by omega]
          exact hring.store e
        · show s.busy = (List.range (s.accepted + 1 - s.notified + k)).map _
          rw [hbusy, show s.accepted + 1 - s.notified + k =
            s.accepted - s.notified + (k + 1) by omega]
          rfl
    · cases hstep
  | consume =>
    simp only [creditStep] at hstep
    by_cases hb : s.accepted - s.taken = 0
    · rw [hring.next_completion_none_iff.mpr hb] at hstep
      cases hstep
      exact h
    · obtain ⟨k, hk⟩ := Nat.exists_eq_succ_of_ne_zero hb
      rw [hk] at hring
      obtain ⟨d, sq', heq, -, hsq', hring'⟩ := hring.next_completion
      rw [heq] at hstep
      cases hstep
      refine ⟨by rw [hsq']; exact h.elCount, by show s.notified ≤ s.taken + 1; omega,
        by show s.taken + 1 ≤ s.accepted; omega, c, ?_, ?_⟩
      · show SqCredit sq' (s.taken + 1 - s.notified) (s.accepted - (s.taken + 1)) _ _
        rw [show s.taken + 1 - s.notified = s.taken - s.notified + 1 by omega,
          show s.accepted - (s.taken + 1) = k by omega]
        exact hring'
      · rw [hsq']
        exact hbusy
  | notify =>
    simp only [creditStep] at hstep
    split at hstep
    · cases hstep
      rename_i hlt
      rw [show s.taken - s.notified = s.taken - (s.notified + 1) + 1 by omega] at hring
      have hhead : (bceNotifySubmissionComplete s.sq).head = advance n s.sq.head 1 := by
        rw [← h.elCount]
        unfold bceNotifySubmissionComplete
        dsimp only
        split <;> rfl
      have hcount : (bceNotifySubmissionComplete s.sq).elCount = s.sq.elCount := by
        unfold bceNotifySubmissionComplete
        dsimp only
        split <;> rfl
      refine ⟨hcount.trans h.elCount, by show s.notified + 1 ≤ s.taken; omega, htak, c,
        hring.notify, ?_⟩
      show s.busy.tail = (List.range (s.accepted - (s.notified + 1) + c)).map
        (advance n (bceNotifySubmissionComplete s.sq).head)
      rw [hbusy, hhead, show s.accepted - s.notified + c =
        (s.accepted - (s.notified + 1) + c) + 1 by omega, List.range_succ_eq_map,
        List.map_cons, List.tail_cons, List.map_map]
      refine List.map_congr_left fun i _ => ?_
      rw [advance_advance, Nat.add_comm 1 i]
      rfl
    · cases hstep

theorem creditInv_reachable {n : Nat} (hn : 0 < n) {s : CreditState}
    (h : (creditSystem n).Reachable (fun _ _ => True) s) : CreditInv n s :=
  h.invariant (fun _ => creditInv_init hn) fun _ _ _ _ hi _ hs => creditInv_step hi hs

/-- **The `n - 1` credit of a ring.** In every run of a queue of `n ≥ 2`
elements the free credit, the reservations and the occupied slots add up to
`n - 1` and the four indices keep their order round the ring from `head`. So no
slot is handed out while its previous element is submitted or not yet notified,
and `bce_next_completion` finds nothing exactly when every accepted completion
has been consumed. -/
theorem sq_credit_of_every_run {n : Nat} (hn : 2 ≤ n) {s : CreditState}
    (h : (creditSystem n).Reachable (fun _ _ => True) s) :
    s.sq.availableCommands + s.held + (dist n s.sq.head s.sq.tail : Nat) = n - 1 ∧
    dist n s.sq.head s.sq.completionCidx ≤ dist n s.sq.head s.sq.completionTail ∧
    dist n s.sq.head s.sq.completionTail ≤ dist n s.sq.head s.sq.tail ∧
    (∀ s', creditStep .next s = some s' → (bceNextSubmission s.sq).1 ∉ s.busy) ∧
    (bceNextCompletion s.sq = none ↔ s.taken = s.accepted) := by
  have hinv := creditInv_reachable (by omega) h
  obtain ⟨c, hring, hbusy⟩ := hinv.ring
  have htail := hring.dist_tail
  have hctail := hring.dist_ctail
  have hcidx := hring.dist_cidx
  have hcredit := hring.credit
  have hnot := hinv.notified_le
  have htak := hinv.taken_le
  rw [hinv.elCount] at htail hctail hcidx hcredit
  refine ⟨by rw [htail]; exact hcredit, by omega, by omega, ?_, ?_⟩
  · intro s' hstep hmem
    -- a reservation is held, so the ring is not full and `tail` is a free slot
    have hheld : 0 < s.held := by
      by_contra hzero
      simp [creditStep, hzero] at hstep
    have hfree := hring.available_nonneg
    rw [hbusy] at hmem
    obtain ⟨i, hi, heq⟩ := List.mem_map.mp hmem
    have hi := List.mem_range.mp hi
    have hhead := hring.head_lt
    rw [hinv.elCount] at hhead
    have hat : dist n s.sq.head s.sq.tail = i := by
      rw [show s.sq.tail = advance n s.sq.head i from heq.symm]
      exact dist_advance hhead (by omega)
    omega
  · rw [hring.next_completion_none_iff]
    omega

/-- The invariant at work on a run round the ring: of a full queue both elements are completed,
one completion is consumed and its slot notified, and the credit is reserved again. -/
theorem sq_credit_of_a_run :
    ∃ s s', (creditSystem 3).Reachable (fun _ _ => True) s ∧ creditStep .next s = some s' ∧
      (s.sq.head, s.sq.completionCidx, s.sq.completionTail, s.sq.tail) = (1, 1, 2, 2) ∧
      (s.sq.availableCommands, s.held, s.busy) = (0, 1, [1]) ∧
      s.sq.availableCommands + s.held + (dist 3 s.sq.head s.sq.tail : Nat) = 3 - 1 ∧
      dist 3 s.sq.head s.sq.completionCidx ≤ dist 3 s.sq.head s.sq.completionTail ∧
      dist 3 s.sq.head s.sq.completionTail ≤ dist 3 s.sq.head s.sq.tail ∧
      (bceNextSubmission s.sq).1 ∉ s.busy ∧ bceNextCompletion s.sq ≠ none := by
  have hrun : (creditSystem 3).Reachable (fun _ _ => True)
      ((creditSystem 3).after (fun _ _ => True)
        [.reserve 0, .reserve 0, .reserve 0, .next, .next, .submit, .complete ⟨0, 0, 7, 0, 0, 1⟩,
          .complete ⟨0, 0, 7, 1, 0, 1⟩, .consume, .notify, .reserve 0]
        ⟨bceAllocSq 7 3, [], 0, [], 0, 0, 0⟩) := .after (.of_init ⟨7, rfl⟩) rfl
  obtain ⟨hsum, hcidx, hctail, hfree, hnull⟩ := sq_credit_of_every_run (by decide) hrun
  -- the second completion has not been consumed
  exact ⟨_, _, hrun, rfl, rfl, rfl, hsum, hcidx, hctail, hfree _ rfl,
    fun hnone => absurd (hnull.mp hnone) (by decide)⟩

end BceDriver
