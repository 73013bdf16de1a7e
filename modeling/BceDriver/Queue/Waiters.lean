import BceDriver.Lib.Threads
import BceDriver.Queue.Credit

/-!
# Waiting for a slot

Any number of threads run `bce_reserve_submission`,
`bce_notify_submission_complete` and `bce_cancel_submission_reservation` on one
submission queue. Each atomic counter operation, each `complete()`, each
`try_wait_for_completion` and each blocking or waking is one step.

- A thread that found no slot and registered in
  `available_command_completion_waiting_count` is *registered* until it takes a
  token, takes its registration back, or finds it claimed and looks for the
  token of the notifier that claimed it.
- `waiters_balanced`: the count, the tokens, and the notifiers about to leave a
  token account for the registered threads, in the runs in which a waiter whose
  registration was claimed finds a token (`TokenFound`).
- `slots_seen`: nobody sleeps next to a slot that no thread is about to look
  at, in the runs in which every returned slot is announced (`Announced`).
-/

namespace BceDriver

/-- Where a thread is. -/
inductive SqCaller where
  | idle
  /-- about to take a slot; `timeout` jiffies are left -/
  | trying (timeout : Nat)
  /-- found no slot, and about to register as a waiter -/
  | refused (timeout : Nat)
  /-- registered, and blocked in `wait_for_completion_timeout` -/
  | waiting (timeout : Nat)
  /-- the wait timed out; about to take the registration back -/
  | timedOut
  /-- the registration was claimed; about to `try_wait_for_completion` -/
  | claimed
  /-- `bce_reserve_submission` returned -/
  | returned (status : Int)
  /-- in `bce_notify_submission_complete`, with the slot returned -/
  | counting
  /-- in `bce_notify_submission_complete`, about to `complete()` -/
  | signalling
deriving DecidableEq, Repr

inductive SqChoice where
  | reserve (timeout : Nat)
  | notify
  | cancel
  | next
  /-- the wait ends with a token, and with `left` jiffies left -/
  | wake (left : Nat)
  /-- the wait ends without one -/
  | timeout
deriving DecidableEq, Repr

/-- The thread is in none of the calls. -/
def SqCaller.Free : SqCaller → Prop
  | .idle | .returned _ => True
  | _ => False

instance : DecidablePred SqCaller.Free
  | .idle | .returned _ => .isTrue trivial
  | .trying _ | .refused _ | .waiting _ | .timedOut | .claimed | .counting | .signalling =>
    .isFalse id

/-- The steps of a thread inside one of the calls. -/
def sqCallerStep : SqChoice → SqCaller → BceQueueSq → Option (SqCaller × BceQueueSq)
  | .next, .trying timeout, sq =>
    let dec := atomicDecIfPositive sq.availableCommands
    let sq := { sq with availableCommands := dec.2 }
    if dec.1 < 0 then
      some (if timeout = 0 then .returned (-EAGAIN) else .refused timeout, sq)
    else
      some (.returned 0, sq)
  | .next, .refused timeout, sq =>
    some (.waiting timeout, { sq with
      availableCommandCompletionWaitingCount := sq.availableCommandCompletionWaitingCount + 1 })
  | .wake left, .waiting timeout, sq =>
    if 0 < sq.availableCommandCompletion ∧ 0 < left ∧ left ≤ timeout then
      some (.trying left, { sq with
        availableCommandCompletion := sq.availableCommandCompletion - 1 })
    else none
  | .timeout, .waiting _, sq =>
    if sq.availableCommandCompletion = 0 then some (.timedOut, sq) else none
  | .next, .timedOut, sq =>
    let dec := atomicDecIfPositive sq.availableCommandCompletionWaitingCount
    let sq := { sq with availableCommandCompletionWaitingCount := dec.2 }
    some (if dec.1 < 0 then .claimed else .trying 0, sq)
  | .next, .claimed, sq =>
    -- takes a token if there is one
    some (.trying 0, { sq with
      availableCommandCompletion := sq.availableCommandCompletion - 1 })
  | .next, .counting, sq =>
    let dec := atomicDecIfPositive sq.availableCommandCompletionWaitingCount
    let sq := { sq with availableCommandCompletionWaitingCount := dec.2 }
    some (if dec.1 ≥ 0 then .signalling else .idle, sq)
  | .next, .signalling, sq =>
    some (.idle, { sq with availableCommandCompletion := sq.availableCommandCompletion + 1 })
  | _, _, _ => none

/-- A call, or a step inside one. -/
def sqCallerRun (c : SqChoice) (l : SqCaller) (sq : BceQueueSq) :
    Option (SqCaller × BceQueueSq) :=
  if l.Free then
    match c with
    | .reserve timeout => if 0 < timeout then some (.trying timeout, sq) else none
    | .notify =>
      some (.counting, { sq with
        head := (sq.head + 1) % sq.elCount
        availableCommands := sq.availableCommands + 1 })
    | .cancel => some (.idle, bceCancelSubmissionReservation sq)
    | .next | .wake _ | .timeout => none
  else
    sqCallerStep c l sq

/-- The threads `ι` on a queue fresh from `bce_alloc_sq`. -/
def waiterProgram (ι : Type) : ThreadProgram ι BceQueueSq SqCaller SqChoice Empty where
  init sq := ∃ qid elCount, 0 < elCount ∧ sq = bceAllocSq qid elCount
  start := .idle
  run _ := sqCallerRun
  env e := e.elim

/-! ## What a step does -/

/-- A step of a thread, by what it does to the slots, the count and the tokens. -/
inductive SqEffect : SqChoice → SqCaller → SqCaller → BceQueueSq → BceQueueSq → Prop where
  | called {c : SqChoice} {l : SqCaller} {timeout : Nat} {sq : BceQueueSq} : l.Free →
      SqEffect c l (.trying timeout) sq sq
  | cancelled {l : SqCaller} {sq : BceQueueSq} : l.Free →
      SqEffect .cancel l .idle sq (bceCancelSubmissionReservation sq)
  | returned {c : SqChoice} {l : SqCaller} {sq : BceQueueSq} : l.Free →
      SqEffect c l .counting sq { sq with
        head := (sq.head + 1) % sq.elCount
        availableCommands := sq.availableCommands + 1 }
  | took {c : SqChoice} {timeout : Nat} {sq : BceQueueSq} : 0 < sq.availableCommands →
      SqEffect c (.trying timeout) (.returned 0) sq
        { sq with availableCommands := sq.availableCommands - 1 }
  | gaveUp {c : SqChoice} {sq : BceQueueSq} : sq.availableCommands ≤ 0 →
      SqEffect c (.trying 0) (.returned (-EAGAIN)) sq sq
  | refused {c : SqChoice} {timeout : Nat} {sq : BceQueueSq} : sq.availableCommands ≤ 0 →
      SqEffect c (.trying timeout) (.refused timeout) sq sq
  | registered {c : SqChoice} {timeout : Nat} {sq : BceQueueSq} :
      SqEffect c (.refused timeout) (.waiting timeout) sq { sq with
        availableCommandCompletionWaitingCount := sq.availableCommandCompletionWaitingCount + 1 }
  | woken {c : SqChoice} {timeout left : Nat} {sq : BceQueueSq} :
      0 < sq.availableCommandCompletion →
      SqEffect c (.waiting timeout) (.trying left) sq
        { sq with availableCommandCompletion := sq.availableCommandCompletion - 1 }
  | timedOut {c : SqChoice} {timeout : Nat} {sq : BceQueueSq} :
      SqEffect c (.waiting timeout) .timedOut sq sq
  | tookBack {c : SqChoice} {sq : BceQueueSq} : 0 < sq.availableCommandCompletionWaitingCount →
      SqEffect c .timedOut (.trying 0) sq { sq with
        availableCommandCompletionWaitingCount := sq.availableCommandCompletionWaitingCount - 1 }
  | claimed {c : SqChoice} {sq : BceQueueSq} : sq.availableCommandCompletionWaitingCount ≤ 0 →
      SqEffect c .timedOut .claimed sq sq
  | absorbed {c : SqChoice} {sq : BceQueueSq} :
      SqEffect c .claimed (.trying 0) sq
        { sq with availableCommandCompletion := sq.availableCommandCompletion - 1 }
  | nobody {c : SqChoice} {sq : BceQueueSq} : sq.availableCommandCompletionWaitingCount ≤ 0 →
      SqEffect c .counting .idle sq sq
  | claims {c : SqChoice} {sq : BceQueueSq} : 0 < sq.availableCommandCompletionWaitingCount →
      SqEffect c .counting .signalling sq { sq with
        availableCommandCompletionWaitingCount := sq.availableCommandCompletionWaitingCount - 1 }
  | signalled {c : SqChoice} {sq : BceQueueSq} :
      SqEffect c .signalling .idle sq
        { sq with availableCommandCompletion := sq.availableCommandCompletion + 1 }

theorem sqCallerStep_spec {c : SqChoice} {l l' : SqCaller} {sq sq' : BceQueueSq}
    (hstep : sqCallerStep c l sq = some (l', sq')) : SqEffect c l l' sq sq' := by
  have hslots := Int.lt_or_le 0 sq.availableCommands
  have hcount := Int.lt_or_le 0 sq.availableCommandCompletionWaitingCount
  cases l with
  | idle | returned => cases c <;> cases hstep
  | trying timeout =>
    cases c with
    | next =>
      obtain hpos | hle := hslots
      · simp only [sqCallerStep, atomicDecIfPositive_of_pos hpos] at hstep
        rw [if_neg (by omega)] at hstep
        cases hstep
        exact .took hpos
      · simp only [sqCallerStep, atomicDecIfPositive_of_le hle] at hstep
        rw [if_pos (by omega)] at hstep
        cases hstep
        by_cases ht : timeout = 0
        · rw [if_pos ht, ht]
          exact .gaveUp hle
        · rw [if_neg ht]
          exact .refused hle
    | reserve | notify | cancel | wake | timeout => cases hstep
  | refused timeout =>
    cases c with
    | next =>
      cases hstep
      exact .registered
    | reserve | notify | cancel | wake | timeout => cases hstep
  | waiting timeout =>
    cases c with
    | wake left =>
      simp only [sqCallerStep] at hstep
      split at hstep
      · next hwake =>
        cases hstep
        exact .woken hwake.1
      · cases hstep
    | timeout =>
      simp only [sqCallerStep] at hstep
      split at hstep
      · cases hstep
        exact .timedOut
      · cases hstep
    | reserve | notify | cancel | next => cases hstep
  | timedOut =>
    cases c with
    | next =>
      obtain hpos | hle := hcount
      · simp only [sqCallerStep, atomicDecIfPositive_of_pos hpos] at hstep
        rw [if_neg (by omega)] at hstep
        cases hstep
        exact .tookBack hpos
      · simp only [sqCallerStep, atomicDecIfPositive_of_le hle] at hstep
        rw [if_pos (by omega)] at hstep
        cases hstep
        exact .claimed hle
    | reserve | notify | cancel | wake | timeout => cases hstep
  | claimed =>
    cases c with
    | next =>
      cases hstep
      exact .absorbed
    | reserve | notify | cancel | wake | timeout => cases hstep
  | counting =>
    cases c with
    | next =>
      obtain hpos | hle := hcount
      · simp only [sqCallerStep, atomicDecIfPositive_of_pos hpos] at hstep
        rw [if_pos (by omega)] at hstep
        cases hstep
        exact .claims hpos
      · simp only [sqCallerStep, atomicDecIfPositive_of_le hle] at hstep
        rw [if_neg (by omega)] at hstep
        cases hstep
        exact .nobody hle
    | reserve | notify | cancel | wake | timeout => cases hstep
  | signalling =>
    cases c with
    | next =>
      cases hstep
      exact .signalled
    | reserve | notify | cancel | wake | timeout => cases hstep

theorem sqCallerRun_spec {c : SqChoice} {l l' : SqCaller} {sq sq' : BceQueueSq}
    (hstep : sqCallerRun c l sq = some (l', sq')) : SqEffect c l l' sq sq' := by
  unfold sqCallerRun at hstep
  split at hstep
  · next hfree =>
    cases c with
    | reserve timeout =>
      simp only at hstep
      split at hstep
      · cases hstep
        exact .called hfree
      · cases hstep
    | notify =>
      cases hstep
      exact .returned hfree
    | cancel =>
      cases hstep
      exact .cancelled hfree
    | next | wake | timeout => cases hstep
  · exact sqCallerStep_spec hstep

/-! ## A thread alone

Taken without interruption, the steps are those of `bce_reserve_submission` and
`bce_notify_submission_complete` as `BceDriver.Queue.Basic` has them. -/

/-- The steps of one thread, one after the other. -/
def sqCallerThrough : List SqChoice → SqCaller × BceQueueSq → Option (SqCaller × BceQueueSq)
  | [], r => some r
  | c :: cs, r => (sqCallerRun c r.1 r.2).bind (sqCallerThrough cs)

/-- The place of a thread whose call of `bce_reserve_submission` got that far. -/
def ReserveProgress.caller (timeout : Nat) : ReserveProgress → SqCaller
  | .returned status => .returned status
  | .waiting => .waiting timeout

theorem sqCallerRun_reserve {l : SqCaller} (hfree : l.Free) {timeout : Nat} (ht : 0 < timeout)
    (sq : BceQueueSq) : sqCallerRun (.reserve timeout) l sq = some (.trying timeout, sq) := by
  unfold sqCallerRun
  rw [if_pos hfree]
  simp only
  rw [if_pos ht]

theorem reserve_alone {l : SqCaller} (hfree : l.Free) (sq : BceQueueSq) {timeout : Nat}
    (ht : 0 < timeout) :
    ∃ cs, sqCallerThrough (.reserve timeout :: .next :: cs) (l, sq) =
      some ((bceReserveSubmission sq timeout).1.caller timeout,
        (bceReserveSubmission sq timeout).2) := by
  have hcall := sqCallerRun_reserve hfree ht sq
  -- a free slot is taken at once; without one the thread registers and waits
  obtain ⟨hpos, hreserve⟩ | ⟨-, h0, -⟩ | ⟨hle, hne, hreserve⟩ :=
    bceReserveSubmission_cases sq timeout
  · refine ⟨[], ?_⟩
    have hnext : sqCallerRun .next (.trying timeout) sq =
        some (.returned 0, { sq with availableCommands := sq.availableCommands - 1 }) := by
      simp [sqCallerRun, SqCaller.Free, sqCallerStep, atomicDecIfPositive_of_pos hpos,
        show ¬sq.availableCommands < 1 by omega]
    simp [sqCallerThrough, hcall, hnext, hreserve, ReserveProgress.caller]
  · exact absurd h0 ht.ne'
  · refine ⟨[.next], ?_⟩
    have hnext : sqCallerRun .next (.trying timeout) sq = some (.refused timeout, sq) := by
      simp [sqCallerRun, SqCaller.Free, sqCallerStep, atomicDecIfPositive_of_le hle, hne,
        show sq.availableCommands < 1 by omega]
    have hregister : sqCallerRun .next (.refused timeout) sq = some (.waiting timeout, { sq with
        availableCommandCompletionWaitingCount :=
          sq.availableCommandCompletionWaitingCount + 1 }) := rfl
    simp [sqCallerThrough, hcall, hnext, hregister, hreserve, ReserveProgress.caller]

theorem notify_alone {l : SqCaller} (hfree : l.Free) (sq : BceQueueSq) :
    ∃ cs, sqCallerThrough (.notify :: .next :: cs) (l, sq) =
      some (.idle, bceNotifySubmissionComplete sq) := by
  have hcall : sqCallerRun .notify l sq = some (.counting, { sq with
      head := (sq.head + 1) % sq.elCount
      availableCommands := sq.availableCommands + 1 }) := by
    unfold sqCallerRun
    rw [if_pos hfree]
  -- `complete` is called only if there was a waiter to count down
  obtain hpos | hle := Int.lt_or_le 0 sq.availableCommandCompletionWaitingCount
  · refine ⟨[.next], ?_⟩
    rw [sqCallerThrough, hcall]
    simp [sqCallerThrough, sqCallerRun, SqCaller.Free, sqCallerStep,
      bceNotifySubmissionComplete, atomicDecIfPositive_of_pos hpos,
      show 1 ≤ sq.availableCommandCompletionWaitingCount by omega]
  · refine ⟨[], ?_⟩
    rw [sqCallerThrough, hcall]
    simp [sqCallerThrough, sqCallerRun, SqCaller.Free, sqCallerStep,
      bceNotifySubmissionComplete, atomicDecIfPositive_of_le hle,
      show ¬1 ≤ sq.availableCommandCompletionWaitingCount by omega]

/-! ## Who is where -/

/-- Registered as a waiter, or claimed by a notifier and not yet back. -/
def SqCaller.registered : SqCaller → Bool
  | .waiting _ | .timedOut | .claimed => true
  | _ => false

/-- Awake, and about to look at the slot counter. -/
def SqCaller.looking : SqCaller → Bool
  | .trying _ => true
  | _ => false

/-- Between the failed check and the registration. -/
def SqCaller.registering : SqCaller → Bool
  | .refused _ => true
  | _ => false

/-- Returned a slot, and has not looked at the waiter count yet. -/
def SqCaller.announcing : SqCaller → Bool
  | .counting => true
  | _ => false

/-- About to leave a token. -/
def SqCaller.leaving : SqCaller → Bool
  | .signalling => true
  | _ => false

section

variable {l : SqCaller} (h : l.Free)
include h

theorem SqCaller.Free.registered : l.registered = false := by
  cases l <;> first | rfl | exact h.elim

theorem SqCaller.Free.looking : l.looking = false := by
  cases l <;> first | rfl | exact h.elim

theorem SqCaller.Free.registering : l.registering = false := by
  cases l <;> first | rfl | exact h.elim

theorem SqCaller.Free.announcing : l.announcing = false := by
  cases l <;> first | rfl | exact h.elim

theorem SqCaller.Free.leaving : l.leaving = false := by
  cases l <;> first | rfl | exact h.elim

end

section Runs

variable {ι : Type} [DecidableEq ι] [Fintype ι]

/-- The count, the tokens and the tokens on their way. -/
def wakeups (s : Threads ι BceQueueSq SqCaller) : Int :=
  s.shared.availableCommandCompletionWaitingCount + s.shared.availableCommandCompletion +
    threadCount SqCaller.leaving s.thread

/-- The tokens and the threads that will see a returned slot. -/
def eyes (s : Threads ι BceQueueSq SqCaller) : Int :=
  s.shared.availableCommandCompletion + threadCount SqCaller.leaving s.thread +
    threadCount SqCaller.announcing s.thread + threadCount SqCaller.looking s.thread

/-! ## The waiter count and the tokens -/

/-- A thread that finds its registration claimed finds a token as well. -/
def TokenFound : ThreadAction ι SqChoice Empty → Threads ι BceQueueSq SqCaller → Prop
  | .run i _, s => s.thread i = .claimed → 0 < s.shared.availableCommandCompletion
  | .env e, _ => e.elim

/-- One step, on what accounts for the registered threads. -/
theorem SqEffect.wakeups {c : SqChoice} {l l' : SqCaller} {sq sq' : BceQueueSq}
    (h : SqEffect c l l' sq sq') :
    (0 ≤ sq.availableCommandCompletionWaitingCount →
      0 ≤ sq'.availableCommandCompletionWaitingCount) ∧
    sq.availableCommandCompletionWaitingCount + sq.availableCommandCompletion +
        l.leaving.toNat + l'.registered.toNat ≤
      sq'.availableCommandCompletionWaitingCount + sq'.availableCommandCompletion +
        l'.leaving.toNat + l.registered.toNat ∧
    ((l = .claimed → 0 < sq.availableCommandCompletion) →
      sq.availableCommandCompletionWaitingCount + sq.availableCommandCompletion +
          l.leaving.toNat + l'.registered.toNat =
        sq'.availableCommandCompletionWaitingCount + sq'.availableCommandCompletion +
          l'.leaving.toNat + l.registered.toNat) := by
  cases h with
  | called hfree | cancelled hfree | returned hfree =>
    rw [hfree.leaving, hfree.registered]
    exact ⟨id, Int.le_refl _, fun _ => rfl⟩
  | took | gaveUp | refused | timedOut | claimed | nobody =>
    -- neither the count nor the tokens change
    exact ⟨id, Int.le_refl _, fun _ => rfl⟩
  | registered | signalled | woken | tookBack | absorbed | claims =>
    simp only [SqCaller.leaving, SqCaller.registered, Bool.toNat_true, Bool.toNat_false,
      reduceCtorEq, false_implies, true_implies]
    omega

omit [Fintype ι] in
theorem step_effect {a : ThreadAction ι SqChoice Empty} {s s' : Threads ι BceQueueSq SqCaller}
    (h : (waiterProgram ι).step a s = some s') :
    ∃ i c l sq, a = .run i c ∧ SqEffect c (s.thread i) l s.shared sq ∧
      s' = { shared := sq, thread := Function.update s.thread i l } := by
  obtain ⟨i, c, l, sq, rfl, hrun, rfl⟩ | ⟨e, -⟩ := ThreadProgram.step_cases h
  · exact ⟨i, c, l, sq, rfl, sqCallerRun_spec hrun, rfl⟩
  · exact e.elim

variable {s : Threads ι BceQueueSq SqCaller}

theorem wakeups_init (h : (waiterProgram ι).system.init s) :
    s.shared.availableCommandCompletionWaitingCount = 0 ∧ wakeups s = 0 ∧
      threadCount SqCaller.registered s.thread = 0 := by
  obtain ⟨⟨qid, elCount, -, hsq⟩, hstart⟩ := h
  have hidle : ∀ i, s.thread i = .idle := hstart
  have hleaving : threadCount SqCaller.leaving s.thread = 0 :=
    threadCount_eq_zero.mpr fun i => by rw [hidle i]; rfl
  have hregistered : threadCount SqCaller.registered s.thread = 0 :=
    threadCount_eq_zero.mpr fun i => by rw [hidle i]; rfl
  refine ⟨by rw [hsq]; rfl, ?_, hregistered⟩
  unfold wakeups
  rw [hleaving, hsq]
  rfl

/-- Every registered thread is counted, or has a token on its way. -/
theorem waiters_counted {G : ThreadAction ι SqChoice Empty → _ → Prop}
    (h : (waiterProgram ι).system.Reachable G s) :
    0 ≤ s.shared.availableCommandCompletionWaitingCount ∧
      threadCount SqCaller.registered s.thread ≤ wakeups s := by
  refine StepSystem.Reachable.invariant
    (I := fun s => 0 ≤ s.shared.availableCommandCompletionWaitingCount ∧
      threadCount SqCaller.registered s.thread ≤ wakeups s) ?_ ?_ h
  · intro s hinit
    obtain ⟨hcount, hwakeups, hregistered⟩ := wakeups_init hinit
    rw [hcount, hwakeups, hregistered]
    exact ⟨le_rfl, le_rfl⟩
  · rintro a s s' - ⟨hcount, hle⟩ - hstep
    obtain ⟨i, c, l, sq, rfl, heff, rfl⟩ := step_effect hstep
    obtain ⟨hcount', hmove, -⟩ := heff.wakeups
    have hregistered := threadCount_update SqCaller.registered s.thread i l
    have hleaving := threadCount_update SqCaller.leaving s.thread i l
    refine ⟨hcount' hcount, ?_⟩
    unfold wakeups at hle ⊢
    simp only
    omega

/-- The waiter count and the tokens account for the registered threads exactly, as
long as every claimed waiter finds a token. -/
theorem waiters_balanced (h : (waiterProgram ι).system.Reachable TokenFound s) :
    wakeups s = threadCount SqCaller.registered s.thread := by
  refine StepSystem.Reachable.invariant
    (I := fun s => wakeups s = threadCount SqCaller.registered s.thread) ?_ ?_ h
  · intro s hinit
    obtain ⟨-, hwakeups, hregistered⟩ := wakeups_init hinit
    rw [hwakeups, hregistered]
    rfl
  · rintro a s s' - heq hfound hstep
    obtain ⟨i, c, l, sq, rfl, heff, rfl⟩ := step_effect hstep
    have hmove := heff.wakeups.2.2 hfound
    have hregistered := threadCount_update SqCaller.registered s.thread i l
    have hleaving := threadCount_update SqCaller.leaving s.thread i l
    unfold wakeups at heq ⊢
    simp only
    omega

/-- **No wakeup is left behind**, in every run in which each waiter whose
registration was claimed finds a token: when no call is in progress nobody is
counted as a waiter and no token is left. -/
theorem no_wakeup_left (h : (waiterProgram ι).system.Reachable TokenFound s)
    (hfree : ∀ i, (s.thread i).Free) :
    s.shared.availableCommandCompletionWaitingCount = 0 ∧
      s.shared.availableCommandCompletion = 0 := by
  have hbalanced := waiters_balanced h
  have hcount := (waiters_counted h).1
  have hleaving : threadCount SqCaller.leaving s.thread = 0 :=
    threadCount_eq_zero.mpr fun i => (hfree i).leaving
  have hregistered : threadCount SqCaller.registered s.thread = 0 :=
    threadCount_eq_zero.mpr fun i => (hfree i).registered
  unfold wakeups at hbalanced
  omega

/-! ## Slots and sleepers -/

/-- Nobody is counted as a waiter, or between the failed check and that. -/
def NobodyWaits (s : Threads ι BceQueueSq SqCaller) : Prop :=
  s.shared.availableCommandCompletionWaitingCount ≤ 0 ∧
    ∀ j, (s.thread j).registering = false

/-- A slot comes back through `bce_cancel_submission_reservation`, or through a
notifier that sees no waiter, only while nobody waits or is about to. -/
def Announced : ThreadAction ι SqChoice Empty → Threads ι BceQueueSq SqCaller → Prop
  | .run _ .cancel, s => NobodyWaits s
  | .run i _, s => s.thread i = .counting →
      s.shared.availableCommandCompletionWaitingCount ≤ 0 → NobodyWaits s
  | .env e, _ => e.elim

/-- Somebody is registered, or about to. -/
def SomebodyWaits (s : Threads ι BceQueueSq SqCaller) : Prop :=
  0 < s.shared.availableCommandCompletionWaitingCount ∨
    0 < threadCount SqCaller.registering s.thread

/-- A step, on the slots and the eyes. Unless it returns a slot without a word, the
eyes lose nothing that the slots keep. -/
theorem SqEffect.seen {c : SqChoice} {l l' : SqCaller} {sq sq' : BceQueueSq}
    (h : SqEffect c l l' sq sq') :
    (sq'.availableCommandCompletionWaitingCount = sq.availableCommandCompletionWaitingCount ∧
      l'.registering = l.registering ∧
      (c = .cancel ∨
        l = .counting ∧ sq.availableCommandCompletionWaitingCount ≤ 0)) ∨
    ((0 < sq'.availableCommandCompletionWaitingCount ∨ 0 < l'.registering.toNat →
        0 < sq.availableCommandCompletionWaitingCount ∨ 0 < l.registering.toNat ∨
          sq'.availableCommands ≤ 0) ∧
      (sq'.availableCommands ≤ 0 ∨
        sq'.availableCommands + sq.availableCommandCompletion + l.leaving.toNat +
            l.announcing.toNat + l.looking.toNat ≤
          sq.availableCommands + sq'.availableCommandCompletion + l'.leaving.toNat +
            l'.announcing.toNat + l'.looking.toNat)) := by
  cases h with
  | cancelled hfree =>
    refine .inl ⟨rfl, ?_, .inl rfl⟩
    rw [hfree.registering]
    rfl
  | nobody hcount => exact .inl ⟨rfl, rfl, .inr ⟨rfl, hcount⟩⟩
  | called hfree | returned hfree =>
    right
    rw [hfree.leaving, hfree.announcing, hfree.looking, hfree.registering]
    simp only [SqCaller.leaving, SqCaller.announcing, SqCaller.looking, SqCaller.registering,
      Bool.toNat_true, Bool.toNat_false]
    omega
  | took | gaveUp | refused | registered | timedOut | claimed | signalled | woken | tookBack
  | absorbed | claims =>
    right
    simp only [SqCaller.leaving, SqCaller.announcing, SqCaller.looking, SqCaller.registering,
      Bool.toNat_true, Bool.toNat_false]
    omega

/-- Every free slot will be seen while somebody waits. -/
theorem slots_seen (h : (waiterProgram ι).system.Reachable Announced s) :
    SomebodyWaits s → s.shared.availableCommands ≤ eyes s := by
  refine StepSystem.Reachable.invariant
    (I := fun s => SomebodyWaits s → s.shared.availableCommands ≤ eyes s) ?_ ?_ h
  · rintro s ⟨⟨qid, elCount, -, hsq⟩, hstart⟩ hwaited
    have hregistering : threadCount SqCaller.registering s.thread = 0 :=
      threadCount_eq_zero.mpr fun i => by rw [hstart i]; rfl
    rw [SomebodyWaits, hregistering, hsq] at hwaited
    simp [bceAllocSq] at hwaited
  · intro a s s' _ hseen hannounced hstep hwaited
    obtain ⟨i, c, l, sq, rfl, heff, rfl⟩ := step_effect hstep
    have hregistering := threadCount_update SqCaller.registering s.thread i l
    have hleaving := threadCount_update SqCaller.leaving s.thread i l
    have hannouncing := threadCount_update SqCaller.announcing s.thread i l
    have hlooking := threadCount_update SqCaller.looking s.thread i l
    obtain ⟨hcount, hsame, hreturn⟩ | ⟨hwaiter, hkeep⟩ := heff.seen
    · -- a slot nobody was told of: nobody waits
      exfalso
      have hnobody : NobodyWaits s := by
        obtain rfl | ⟨hl, hle⟩ := hreturn
        · exact hannounced
        · cases c with
          | cancel => exact hannounced
          | reserve | notify | next | wake | timeout => exact hannounced hl hle
      have hnone := threadCount_eq_zero.mpr hnobody.2
      have hle := hnobody.1
      unfold SomebodyWaits at hwaited
      rw [hsame] at hregistering
      simp only at hwaited
      omega
    · unfold eyes at hseen ⊢
      unfold SomebodyWaits at hseen hwaited
      simp only at hwaited ⊢
      have hself := le_threadCount SqCaller.registering s.thread i
      omega

/-- **No slot is left to sleepers**, in every run in which slots come back
announced: when a thread is blocked, no token is pending and no other thread is in
the middle of returning a slot, every free slot has a thread awake and about to
look for it. -/
theorem free_slots_looked_for (h : (waiterProgram ι).system.Reachable Announced s) {i : ι}
    {timeout : Nat} (hwaiting : s.thread i = .waiting timeout)
    (htoken : s.shared.availableCommandCompletion = 0)
    (hothers : ∀ j, j ≠ i → s.thread j ≠ .counting ∧ s.thread j ≠ .signalling) :
    s.shared.availableCommands ≤ threadCount SqCaller.looking s.thread := by
  have hquiet : ∀ j, s.thread j ≠ .counting ∧ s.thread j ≠ .signalling := by
    intro j
    by_cases hj : j = i
    · rw [hj, hwaiting]
      exact ⟨nofun, nofun⟩
    · exact hothers j hj
  have hleaving : threadCount SqCaller.leaving s.thread = 0 := threadCount_eq_zero.mpr fun j => by
    cases hl : s.thread j with
    | signalling => exact absurd hl (hquiet j).2
    | idle | trying | refused | waiting | timedOut | claimed | returned | counting => rfl
  have hannouncing : threadCount SqCaller.announcing s.thread = 0 :=
    threadCount_eq_zero.mpr fun j => by
      cases hl : s.thread j with
      | counting => exact absurd hl (hquiet j).1
      | idle | trying | refused | waiting | timedOut | claimed | returned | signalling => rfl
  have hregistered := le_threadCount SqCaller.registered s.thread i
  rw [hwaiting] at hregistered
  have hcounted := (waiters_counted h).2
  have hseen := slots_seen h
  unfold wakeups at hcounted
  unfold eyes SomebodyWaits at hseen
  simp only [SqCaller.registered, Bool.toNat_true] at hregistered
  omega

instance (s : Threads ι BceQueueSq SqCaller) : Decidable (NobodyWaits s) :=
  inferInstanceAs (Decidable (_ ∧ ∀ j, (s.thread j).registering = false))

instance : ∀ a s, Decidable (Announced (ι := ι) a s)
  | .run _ .cancel, s => inferInstanceAs (Decidable (NobodyWaits s))
  | .run i (.reserve _), s | .run i .notify, s | .run i .next, s | .run i (.wake _), s
  | .run i .timeout, s =>
    inferInstanceAs (Decidable (s.thread i = .counting →
      s.shared.availableCommandCompletionWaitingCount ≤ 0 → NobodyWaits s))
  | .env e, _ => e.elim

instance : ∀ a s, Decidable (TokenFound (ι := ι) a s)
  | .run i _, s => inferInstanceAs (Decidable
      (s.thread i = .claimed → 0 < s.shared.availableCommandCompletion))
  | .env e, _ => e.elim

end Runs

/-! ## Runs -/

/-- Threads on a queue with one slot to give. -/
def oneSlot (ι : Type) : Threads ι BceQueueSq SqCaller where
  shared := bceAllocSq 0 2
  thread _ := .idle

theorem oneSlot_init (ι : Type) [DecidableEq ι] : (waiterProgram ι).system.init (oneSlot ι) :=
  ⟨⟨0, 2, by decide, rfl⟩, fun _ => rfl⟩

/-- Thread 0 has the slot, and each thread of `is` waits for it. -/
def takenRun {ι : Type} (i₀ : ι) (is : List ι) : List (ThreadAction ι SqChoice Empty) :=
  [.run i₀ (.reserve 5), .run i₀ .next] ++
    is.flatMap fun i => [.run i (.reserve 5), .run i .next, .run i .next]

/-- Two threads wait, thread 0 returns the slot, and thread 1 is woken. -/
def wokenRun : List (ThreadAction (Fin 3) SqChoice Empty) :=
  takenRun 0 [1, 2] ++ [.run 0 .notify, .run 0 .next, .run 0 .next, .run 1 (.wake 3)]

def wokenState : Threads (Fin 3) BceQueueSq SqCaller :=
  (waiterProgram (Fin 3)).system.after Announced wokenRun (oneSlot (Fin 3))

theorem wokenState_reachable : (waiterProgram (Fin 3)).system.Reachable Announced wokenState :=
  .after (.of_init (oneSlot_init _)) (by decide +kernel)

/-- The free slot is there for thread 1 to take. -/
theorem free_slots_looked_for_of_a_wakeup :
    wokenState.shared.availableCommands ≤ threadCount SqCaller.looking wokenState.thread ∧
      threadCount SqCaller.looking wokenState.thread = 1 :=
  have hwaiting : wokenState.thread 2 = .waiting 5 := by decide +kernel
  ⟨free_slots_looked_for wokenState_reachable hwaiting (by decide +kernel) (by decide +kernel),
    by decide +kernel⟩

/-- Thread 2 is still blocked next to that slot, with no token pending: its turn
is after thread 1. -/
theorem blocked_behind_a_woken_waiter :
    ¬∀ s, (waiterProgram (Fin 3)).system.Reachable (fun _ _ => True) s →
      ∀ i timeout, s.thread i = .waiting timeout → s.shared.availableCommandCompletion = 0 →
        (∀ j, j ≠ i → s.thread j ≠ .counting ∧ s.thread j ≠ .signalling) →
        ¬0 < s.shared.availableCommands := by
  intro h
  have hreach : (waiterProgram (Fin 3)).system.Reachable (fun _ _ => True) wokenState :=
    wokenState_reachable.mono fun _ _ _ => trivial
  exact h wokenState hreach 2 5 (by decide +kernel) (by decide +kernel) (by decide +kernel)
    (by decide +kernel)

/-- A reservation cancelled while thread two waits: the slot is free, and nobody is
awake to see it. -/
example :
    let s := (waiterProgram TwoThreads).system.after (fun _ _ => True)
      (takenRun .one [.two] ++ [.run .one .cancel]) (oneSlot TwoThreads)
    s.thread .two = .waiting 5 ∧ s.shared.availableCommands = 1 ∧
      s.shared.availableCommandCompletion = 0 ∧ ∀ i, (s.thread i).looking = false := by
  decide +kernel

/-- A slot returned between the check and the registration of thread two. -/
example :
    let s := (waiterProgram TwoThreads).system.after (fun _ _ => True)
      (takenRun .one [] ++ [.run .two (.reserve 5), .run .two .next, .run .one .notify,
        .run .one .next, .run .two .next]) (oneSlot TwoThreads)
    s.thread .two = .waiting 5 ∧ s.shared.availableCommands = 1 ∧
      s.shared.availableCommandCompletion = 0 ∧ ∀ i, (s.thread i).looking = false := by
  decide +kernel

/-- Thread two times out after thread one claimed its registration, and finds the
token that thread one left. -/
def absorbedRun : List (ThreadAction TwoThreads SqChoice Empty) :=
  takenRun .one [.two] ++ [.run .two .timeout, .run .one .notify, .run .one .next,
    .run .two .next, .run .one .next, .run .two .next, .run .two .next]

def absorbedState : Threads TwoThreads BceQueueSq SqCaller :=
  (waiterProgram TwoThreads).system.after TokenFound absorbedRun (oneSlot TwoThreads)

theorem no_wakeup_left_of_a_timeout :
    absorbedState.thread .two = .returned 0 ∧
      absorbedState.shared.availableCommandCompletionWaitingCount = 0 ∧
      absorbedState.shared.availableCommandCompletion = 0 := by
  have hreach : (waiterProgram TwoThreads).system.Reachable TokenFound absorbedState :=
    .after (.of_init (oneSlot_init _)) (by decide +kernel)
  exact ⟨by decide +kernel, no_wakeup_left hreach (by decide +kernel)⟩

/-- The same, but thread two looks for the token before thread one left it. -/
def missedRun : List (ThreadAction TwoThreads SqChoice Empty) :=
  takenRun .one [.two] ++ [.run .two .timeout, .run .one .notify, .run .one .next,
    .run .two .next, .run .two .next, .run .two .next, .run .one .next]

def missedState : Threads TwoThreads BceQueueSq SqCaller :=
  (waiterProgram TwoThreads).system.after (fun _ _ => True) missedRun (oneSlot TwoThreads)

/-- Its token stays behind. -/
theorem wakeup_left_behind :
    ¬∀ s, (waiterProgram TwoThreads).system.Reachable (fun _ _ => True) s →
      (∀ i, (s.thread i).Free) →
      s.shared.availableCommandCompletionWaitingCount = 0 ∧
        s.shared.availableCommandCompletion = 0 := by
  intro h
  have hreach : (waiterProgram TwoThreads).system.Reachable (fun _ _ => True) missedState :=
    .after (.of_init (oneSlot_init _)) (by decide +kernel)
  have hnone := (h missedState hreach (by decide +kernel)).2
  revert hnone
  decide +kernel

end BceDriver
