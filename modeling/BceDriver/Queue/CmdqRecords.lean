import BceDriver.Queue.Cmdq

/-!
# Every command gets its own completion

- `CmdqStep`: what a step of a thread does, one constructor for each.
- `BceQueueCmdq.Ok`: the ring from `notified` on. `tres` has the record of the `k`-th
  command in slot `k % el_count` from the time its slot is taken until the handler has
  completed it, and nothing else.
- `CmdqOk`: what holds of a thread, its record and its command.
- `cmdq_records`: the result, for every interleaving.
-/

namespace BceDriver

open RingIndex

/-! ## The ring under the steps of a reservation -/

/-- What the handler and the device use of the queue is as it was. -/
structure SameRing (sq sq' : BceQueueSq) : Prop where
  qid : sq'.qid = sq.qid
  elCount : sq'.elCount = sq.elCount
  head : sq'.head = sq.head
  tail : sq'.tail = sq.tail
  completionCidx : sq'.completionCidx = sq.completionCidx
  completionTail : sq'.completionTail = sq.completionTail
  completionData : sq'.completionData = sq.completionData

theorem sqCallerStep_not_free {c : SqChoice} {w w' : SqCaller} {sq sq' : BceQueueSq}
    (hstep : sqCallerStep c w sq = some (w', sq')) : ¬w.Free := by
  intro hfree
  cases w with
  | idle | returned => cases c <;> cases hstep
  | _ => exact hfree

/-- A reservation that succeeds takes one slot, and nothing else moves. -/
theorem sqCallerStep_ring {c : SqChoice} {w w' : SqCaller} {sq sq' : BceQueueSq}
    (hstep : sqCallerStep c w sq = some (w', sq')) :
    SameRing sq sq' ∧ ∀ {a b d held}, SqCredit sq a b d held →
      SqCredit sq' a b d (if w' = .returned 0 then held + 1 else held) := by
  have hfree := sqCallerStep_not_free hstep
  have heff := sqCallerStep_spec hstep
  cases heff with
  | called h | cancelled h | returned h => exact absurd h hfree
  | took hpos =>
    refine ⟨⟨rfl, rfl, rfl, rfl, rfl, rfl, rfl⟩, fun h => ?_⟩
    rw [if_pos rfl]
    exact h.reserve hpos
  | gaveUp | refused | registered | woken | timedOut | tookBack | claimed | absorbed | nobody
  | claims | signalled =>
    refine ⟨⟨rfl, rfl, rfl, rfl, rfl, rfl, rfl⟩, fun h => ?_⟩
    rw [if_neg (by simp [EAGAIN])]
    exact h.of_eq rfl rfl rfl rfl rfl rfl

/-- The steps of a notification leave the slots alone. -/
theorem sqCallerStep_notify {c : SqChoice} {w w' : SqCaller} {sq sq' : BceQueueSq}
    (hw : w = .counting ∨ w = .signalling) (hstep : sqCallerStep c w sq = some (w', sq')) :
    SameRing sq sq' ∧ ∀ {a b d held}, SqCredit sq a b d held → SqCredit sq' a b d held := by
  obtain ⟨hring, hcredit⟩ := sqCallerStep_ring hstep
  have heff := sqCallerStep_spec hstep
  have hne : w' ≠ .returned 0 := by
    rintro rfl
    cases heff with
    | took => simp at hw
  exact ⟨hring, fun h => by simpa only [if_neg hne] using hcredit h⟩

/-! ## What a step does -/

section Steps

variable {ι : Type} [DecidableEq ι]

/-- The thread is in none of the calls. -/
def CmdqThread.Free : CmdqThread ι → Prop
  | .idle | .returned _ _ => True
  | _ => False

/-- A step of thread `i`. -/
inductive CmdqStep (i : ι) : CmdqThread ι → CmdqThread ι → BceQueueCmdq ι → BceQueueCmdq ι →
    Prop where
  | start {l : CmdqThread ι} {timeout status result : Nat} {q : BceQueueCmdq ι} : l.Free →
      CmdqStep i l (.reserving (.trying timeout)) q
        { q with el := Function.update q.el i ⟨0, status, result⟩ }
  | waited {w w' : SqCaller} {sq : BceQueueSq} {q : BceQueueCmdq ι} : SameRing q.sq sq →
      (∀ {a b d held}, SqCredit q.sq a b d held → SqCredit sq a b d held) →
      CmdqStep i (.reserving w) (.reserving w') q { q with sq }
  | reserved {w : SqCaller} {sq : BceQueueSq} {q : BceQueueCmdq ι} : SameRing q.sq sq →
      (∀ {a b d held}, SqCredit q.sq a b d held → SqCredit sq a b d (held + 1)) →
      CmdqStep i (.reserving w) .reserved q { q with sq, held := q.held + 1 }
  | refused {w : SqCaller} {sq : BceQueueSq} {q : BceQueueCmdq ι} : SameRing q.sq sq →
      (∀ {a b d held}, SqCredit q.sq a b d held → SqCredit sq a b d held) →
      CmdqStep i (.reserving w) (.returned none 0xFFFFFFFF) q { q with sq }
  | slot {q : BceQueueCmdq ι} : q.lck = none →
      CmdqStep i .reserved (.started q.submitters.length) q { q with
        lck := some i
        tres := Function.update q.tres q.sq.tail (some i)
        sq := (bceNextSubmission q.sq).2
        held := q.held - 1
        submitters := q.submitters ++ [i] }
  | submit {seq : Nat} {q : BceQueueCmdq ι} :
      CmdqStep i (.started seq) (.submitted seq) q
        { q with sq := bceSubmitToDevice q.sq, submitted := q.submitters.length }
  | unlock {seq : Nat} {q : BceQueueCmdq ι} :
      CmdqStep i (.submitted seq) (.waiting seq) q { q with lck := none }
  | woke {seq : Nat} {q : BceQueueCmdq ι} : 0 < (q.el i).cmpl →
      CmdqStep i (.waiting seq) (.returned (some seq) (q.el i).status) q { q with
        el := Function.update q.el i { q.el i with cmpl := (q.el i).cmpl - 1 } }
  | handle {l : CmdqThread ι} {q : BceQueueCmdq ι} : l.Free → CmdqStep i l .handling q q
  | lock {q : BceQueueCmdq ι} : q.lck = none →
      CmdqStep i .handling .looking q { q with lck := some i }
  | nothing {q : BceQueueCmdq ι} : bceNextCompletion q.sq = none →
      CmdqStep i .looking .unlocking q q
  | consume {result : BceSqCompletionData} {sq : BceQueueSq} {q : BceQueueCmdq ι} :
      bceNextCompletion q.sq = some (result, sq) →
      CmdqStep i .looking (.storing result) q { q with sq, round := .consumed }
  | store {result : BceSqCompletionData} {j : ι} {q : BceQueueCmdq ι} :
      q.tres q.sq.head = some j →
      CmdqStep i (.storing result) (.signalling j) q { q with
        el := Function.update q.el j
          { q.el j with status := result.status, result := result.result } }
  | missing {result : BceSqCompletionData} {q : BceQueueCmdq ι} : q.tres q.sq.head = none →
      CmdqStep i (.storing result) .clearing q q
  | signal {j : ι} {q : BceQueueCmdq ι} :
      CmdqStep i (.signalling j) .clearing q { q with
        el := Function.update q.el j { q.el j with cmpl := (q.el j).cmpl + 1 }
        done := q.done ++ [j]
        round := .completed }
  | clear {q : BceQueueCmdq ι} :
      CmdqStep i .clearing .notifying q { q with
        tres := Function.update q.tres q.sq.head none
        round := .cleared }
  | notify {q : BceQueueCmdq ι} :
      CmdqStep i .notifying .counting q { q with
        sq := { q.sq with
          head := (q.sq.head + 1) % q.sq.elCount
          availableCommands := q.sq.availableCommands + 1 }
        notified := q.notified + 1
        round := .idle }
  | claim {sq : BceQueueSq} {q : BceQueueCmdq ι} : SameRing q.sq sq →
      (∀ {a b d held}, SqCredit q.sq a b d held → SqCredit sq a b d held) →
      CmdqStep i .counting .waking q { q with sq }
  | next {l : CmdqThread ι} {sq : BceQueueSq} {q : BceQueueCmdq ι} :
      l = .counting ∨ l = .waking → SameRing q.sq sq →
      (∀ {a b d held}, SqCredit q.sq a b d held → SqCredit sq a b d held) →
      CmdqStep i l .looking q { q with sq }
  | unlocked {q : BceQueueCmdq ι} :
      CmdqStep i .unlocking .idle q { q with lck := none }

theorem cmdqReserved_spec {i : ι} {c : SqChoice} {w : SqCaller} {r : SqCaller × BceQueueSq}
    {l : CmdqThread ι} {q q' : BceQueueCmdq ι} (hstep : sqCallerStep c w q.sq = some r)
    (heq : cmdqReserved q r = (l, q')) : CmdqStep i (.reserving w) l q q' := by
  obtain ⟨w', sq⟩ := r
  obtain ⟨hring, hcredit⟩ := sqCallerStep_ring hstep
  cases w' with
  | returned status =>
    by_cases hstatus : status = 0
    · subst hstatus
      cases heq
      exact .reserved hring fun h => by simpa using hcredit h
    · have hne : SqCaller.returned status ≠ .returned 0 := by simp [hstatus]
      simp only [cmdqReserved, if_neg hstatus] at heq
      cases heq
      exact .refused hring fun h => by simpa only [if_neg hne] using hcredit h
  | idle | trying | refused | waiting | timedOut | claimed | counting | signalling =>
    cases heq
    exact .waited hring fun h => by simpa using hcredit h

theorem cmdqRun_spec {i : ι} {c : CmdqChoice} {l l' : CmdqThread ι} {q q' : BceQueueCmdq ι}
    (hstep : cmdqRun i c l q = some (l', q')) : CmdqStep i l l' q q' := by
  cases c with
  | start timeout status result =>
    cases l with
    | idle | returned =>
      simp only [cmdqRun] at hstep
      split at hstep
      · cases hstep
        exact .start trivial
      · cases hstep
    | _ => cases hstep
  | handle =>
    cases l with
    | idle | returned =>
      cases hstep
      exact .handle trivial
    | _ => cases hstep
  | sq c =>
    cases l with
    | reserving w =>
      obtain ⟨r, hsq, heq⟩ := Option.map_eq_some_iff.mp hstep
      exact cmdqReserved_spec hsq heq
    | _ => cases hstep
  | next =>
    cases l with
    | idle | returned | reserving => cases hstep
    | reserved =>
      simp only [cmdqRun] at hstep
      split at hstep
      · next hfree =>
        cases hstep
        exact .slot hfree
      · cases hstep
    | started seq =>
      cases hstep
      exact .submit
    | submitted seq =>
      cases hstep
      exact .unlock
    | waiting seq =>
      simp only [cmdqRun] at hstep
      split at hstep
      · next htoken =>
        cases hstep
        exact .woke htoken
      · cases hstep
    | handling =>
      simp only [cmdqRun] at hstep
      split at hstep
      · next hfree =>
        cases hstep
        exact .lock hfree
      · cases hstep
    | looking =>
      simp only [cmdqRun] at hstep
      split at hstep
      · next hnone =>
        cases hstep
        exact .nothing hnone
      · next hsome =>
        cases hstep
        exact .consume hsome
    | storing result =>
      simp only [cmdqRun] at hstep
      split at hstep
      · next hel =>
        cases hstep
        exact .store hel
      · next hel =>
        cases hstep
        exact .missing hel
    | signalling j =>
      cases hstep
      exact .signal
    | clearing =>
      cases hstep
      exact .clear
    | notifying =>
      cases hstep
      exact .notify
    | counting =>
      simp only [cmdqRun] at hstep
      obtain ⟨⟨w', sq⟩, hsq, heq⟩ := Option.map_eq_some_iff.mp hstep
      obtain ⟨hring, hcredit⟩ := sqCallerStep_notify (.inl rfl) hsq
      by_cases hw : w' = .idle
      · rw [if_pos hw] at heq
        cases heq
        exact .next (.inl rfl) hring hcredit
      · rw [if_neg hw] at heq
        cases heq
        exact .claim hring hcredit
    | waking =>
      simp only [cmdqRun] at hstep
      obtain ⟨⟨w', sq⟩, hsq, heq⟩ := Option.map_eq_some_iff.mp hstep
      obtain ⟨hring, hcredit⟩ := sqCallerStep_notify (.inr rfl) hsq
      cases heq
      exact .next (.inr rfl) hring hcredit
    | unlocking =>
      cases hstep
      exact .unlocked

end Steps

/-! ## The ring -/

/-- The completions the handler has consumed and not given back. -/
def CmdqRound.taken : CmdqRound → Nat
  | .idle => 0
  | .consumed | .completed | .cleared => 1

/-- Those whose record is completed. -/
def CmdqRound.answered : CmdqRound → Nat
  | .completed | .cleared => 1
  | .idle | .consumed => 0

/-- Those whose slot of `tres` is cleared. -/
def CmdqRound.emptied : CmdqRound → Nat
  | .cleared => 1
  | .idle | .consumed | .completed => 0

theorem CmdqRound.answered_le_taken (r : CmdqRound) : r.answered ≤ r.taken := by
  cases r with
  | idle | consumed | completed | cleared => decide

theorem CmdqRound.emptied_le_answered (r : CmdqRound) : r.emptied ≤ r.answered := by
  cases r with
  | idle | consumed | completed | cleared => decide

section Ring

variable {ι : Type}

/-- What holds of the queue: the ring from the first slot not given back. -/
structure BceQueueCmdq.Ok (q : BceQueueCmdq ι) : Prop where
  idle : q.lck = none → q.round = .idle
  credit : ∃ b d, SqCredit q.sq q.round.taken b d q.held ∧
    q.accepted = q.notified + q.round.taken + b ∧ q.submitters.length = q.accepted + d
  head : q.sq.head = q.notified % q.sq.elCount
  entries : q.accepted + q.cqes.length = q.completions.length
  entry : ∀ j e, q.cqes[j]? = some e → ∃ d, q.completions[q.accepted + j]? = some d ∧
    e = deviceEntry q.sq (q.accepted + j) d
  data : ∀ k, q.notified + q.round.taken ≤ k → k < q.accepted →
    q.completions[k]? = some (q.sq.completionData (k % q.sq.elCount))
  sent : q.completions.length ≤ q.submitted
  submitted : q.submitted ≤ q.submitters.length
  slots : ∀ k, q.notified + q.round.emptied ≤ k → k < q.submitters.length →
    q.tres (k % q.sq.elCount) = q.submitters[k]?
  empty : ∀ slot i, q.tres slot = some i → ∃ k, q.notified + q.round.emptied ≤ k ∧
    k < q.submitters.length ∧ slot = k % q.sq.elCount
  done : q.done = q.submitters.take (q.notified + q.round.answered)

namespace BceQueueCmdq.Ok

variable {q : BceQueueCmdq ι} {sq : BceQueueSq}

theorem counts (h : q.Ok) : q.notified + q.round.taken ≤ q.accepted ∧
    q.accepted ≤ q.submitters.length ∧ q.submitters.length < q.notified + q.sq.elCount := by
  obtain ⟨b, d, hcredit, haccepted, hlength⟩ := h.credit
  have hlt := hcredit.occupied_lt
  omega

theorem done_length (h : q.Ok) : q.done.length = q.notified + q.round.answered := by
  obtain ⟨htaken, haccepted, -⟩ := h.counts
  have hle := q.round.answered_le_taken
  rw [h.done, List.length_take]
  omega

/-- The indices of the ring are those of the counts. -/
theorem indices (h : q.Ok) : q.sq.completionCidx = (q.notified + q.round.taken) % q.sq.elCount ∧
    q.sq.completionTail = q.accepted % q.sq.elCount ∧
    q.sq.tail = q.submitters.length % q.sq.elCount := by
  obtain ⟨b, d, hcredit, haccepted, hlength⟩ := h.credit
  have hcidx := hcredit.cidx
  have hctail := hcredit.ctail
  have htail := hcredit.tail
  rw [h.head, advance, Nat.mod_add_mod] at hcidx hctail htail
  refine ⟨hcidx, ?_, ?_⟩
  · rw [hctail, haccepted, Nat.add_assoc]
  · rw [htail, hlength, haccepted]
    congr 1
    omega

/-- Counts from the first slot not given back on have distinct slots. -/
theorem slot_inj (h : q.Ok) {j k : Nat} (heq : j % q.sq.elCount = k % q.sq.elCount)
    (hj : q.notified ≤ j) (hj' : j ≤ q.submitters.length) (hk : q.notified ≤ k)
    (hk' : k ≤ q.submitters.length) : j = k := by
  have hlt := h.counts.2.2
  exact eq_of_mod_eq heq hj (by omega) hk (by omega)

/-- A step of a reservation or a notification. -/
theorem ring (h : q.Ok) (hring : SameRing q.sq sq) {held : Nat}
    (hcredit : ∀ {a b d}, SqCredit q.sq a b d q.held → SqCredit sq a b d held) :
    BceQueueCmdq.Ok { q with sq, held } := by
  obtain ⟨hidle, ⟨b, d, hsq, haccepted, hlength⟩, hhead, hentries, hentry, hdata, hsent, hsubmitted,
    hslots, hempty, hdone⟩ := h
  obtain ⟨hqid, hcount, hshead, -, -, -, hsdata⟩ := hring
  constructor
  · exact hidle
  · exact ⟨b, d, hcredit hsq, haccepted, hlength⟩
  · rw [hshead, hcount]
    exact hhead
  · exact hentries
  · intro j e he
    obtain ⟨d, hd, rfl⟩ := hentry j e he
    refine ⟨d, hd, ?_⟩
    simp only [deviceEntry, hqid, hcount]
  · rw [hcount, hsdata]
    exact hdata
  · exact hsent
  · exact hsubmitted
  · rw [hcount]
    exact hslots
  · rw [hcount]
    exact hempty
  · exact hdone

/-- Nothing of this reads the records, or who holds `lck`. -/
theorem locked (h : q.Ok) (lck : Option ι) (hidle : lck = none → q.round = .idle)
    (el : ι → BceQueueCmdqResultEl) : BceQueueCmdq.Ok { q with lck, el } :=
  ⟨hidle, h.credit, h.head, h.entries, h.entry, h.data, h.sent, h.submitted, h.slots, h.empty,
    h.done⟩

/-- A slot is taken: the record goes to `tail`. -/
theorem take (h : q.Ok) (hheld : 0 < q.held) (i : ι) :
    BceQueueCmdq.Ok { q with
      lck := some i
      tres := Function.update q.tres q.sq.tail (some i)
      sq := (bceNextSubmission q.sq).2
      held := q.held - 1
      submitters := q.submitters ++ [i] } := by
  obtain ⟨b, d, hcredit, haccepted, hlength⟩ := h.credit
  obtain ⟨htaken, haccepted', hwindow⟩ := h.counts
  obtain ⟨-, -, htail⟩ := h.indices
  have hnext : SqCredit (bceNextSubmission q.sq).2 q.round.taken b (d + 1) (q.held - 1) := by
    rw [show q.held = q.held - 1 + 1 by omega] at hcredit
    exact hcredit.next
  -- the window of commands without a returned slot stays below the ring
  have hroom : q.submitters.length + 1 < q.notified + q.sq.elCount := by
    have hlt : q.round.taken + b + (d + 1) < q.sq.elCount := hnext.occupied_lt
    omega
  have hanswered := q.round.answered_le_taken
  have hemptied := q.round.emptied_le_answered
  have hlast : (q.submitters ++ [i]).length = q.submitters.length + 1 := by simp
  have hslots : ∀ k, q.notified + q.round.emptied ≤ k → k < q.submitters.length + 1 →
      Function.update q.tres q.sq.tail (some i) (k % q.sq.elCount) =
        (q.submitters ++ [i])[k]? := by
    intro k hk hk'
    obtain hlt | rfl : k < q.submitters.length ∨ k = q.submitters.length := by omega
    · -- two commands of the window have different slots
      have hne : k % q.sq.elCount ≠ q.sq.tail := by
        intro heq
        have hk := h.slot_inj (heq.trans htail) (by omega) (by omega) (by omega) le_rfl
        omega
      rw [Function.update_of_ne hne, List.getElem?_append_left hlt]
      exact h.slots k hk hlt
    · rw [← htail, Function.update_self]
      simp
  have hempty : ∀ slot j, Function.update q.tres q.sq.tail (some i) slot = some j →
      ∃ k, q.notified + q.round.emptied ≤ k ∧ k < q.submitters.length + 1 ∧
        slot = k % q.sq.elCount := by
    intro slot j hslot
    by_cases heq : slot = q.sq.tail
    · exact ⟨q.submitters.length, by omega, by omega, heq.trans htail⟩
    · rw [Function.update_of_ne heq] at hslot
      obtain ⟨k, hk, hk', rfl⟩ := h.empty slot j hslot
      exact ⟨k, hk, by omega, rfl⟩
  have hdone : q.done = (q.submitters ++ [i]).take (q.notified + q.round.answered) := by
    rw [List.take_append_of_le_length (by omega)]
    exact h.done
  refine ⟨nofun, ⟨b, d + 1, hnext, haccepted, ?_⟩, h.head, h.entries, h.entry, h.data, h.sent,
    ?_, ?_, ?_, hdone⟩
  · rw [hlast, hlength, Nat.add_assoc]
  · rw [hlast]
    exact Nat.le_succ_of_le h.submitted
  · rw [hlast]
    exact hslots
  · rw [hlast]
    exact hempty

/-- The device is told. -/
theorem submit (h : q.Ok) : BceQueueCmdq.Ok { q with
    sq := bceSubmitToDevice q.sq
    submitted := q.submitters.length } := by
  obtain ⟨b, d, hcredit, hcounts⟩ := h.credit
  exact ⟨h.idle, ⟨b, d, hcredit.of_eq rfl rfl rfl rfl rfl rfl, hcounts⟩, h.head, h.entries, h.entry,
    h.data, h.sent.trans h.submitted, le_rfl, h.slots, h.empty, h.done⟩

/-- The handler consumes a completion: it is that of the first command not given back. -/
theorem consume (h : q.Ok) (hround : q.round = .idle) {result : BceSqCompletionData}
    (hnext : bceNextCompletion q.sq = some (result, sq)) (hlck : q.lck ≠ none) :
    BceQueueCmdq.Ok { q with sq, round := .consumed } ∧
      q.completions[q.notified]? = some result := by
  obtain ⟨b, d, hcredit, haccepted, hlength⟩ := h.credit
  rw [hround] at hcredit haccepted
  -- a completion was there to consume
  have hb : b ≠ 0 := by
    intro hb
    rw [hcredit.next_completion_none_iff.mpr hb] at hnext
    cases hnext
  obtain ⟨b, rfl⟩ := Nat.exists_eq_succ_of_ne_zero hb
  obtain ⟨result', sq', hnext', hresult, hsq, hcredit'⟩ := hcredit.next_completion
  obtain ⟨rfl, rfl⟩ := Prod.mk.inj (Option.some.inj (hnext.symm.trans hnext'))
  obtain ⟨hcidx, -, -⟩ := h.indices
  have hdata := h.data
  rw [hround] at hcidx hdata
  have hfirst : q.completions[q.notified]? = some result := by
    rw [hresult, hcidx]
    exact hdata q.notified le_rfl (by simp only [CmdqRound.taken] at haccepted; omega)
  subst hsq
  refine ⟨⟨fun hfree => absurd hfree hlck, ⟨b, d, hcredit', ?_, hlength⟩, h.head, h.entries,
    h.entry, ?_, h.sent, h.submitted, ?_, ?_, ?_⟩, hfirst⟩
  · simp only [CmdqRound.taken] at haccepted ⊢
    omega
  · exact fun k hk => hdata k (by simp only [CmdqRound.taken] at hk ⊢; omega)
  · have hslots := h.slots
    rw [hround] at hslots
    exact hslots
  · have hempty := h.empty
    rw [hround] at hempty
    exact hempty
  · have hdone := h.done
    rw [hround] at hdone
    exact hdone

/-- The record of the command that was consumed is completed. -/
theorem signal (h : q.Ok) (hround : q.round = .consumed) (hlck : q.lck ≠ none) {j : ι}
    (hj : q.submitters[q.notified]? = some j) (el : ι → BceQueueCmdqResultEl) :
    BceQueueCmdq.Ok { q with el, done := q.done ++ [j], round := .completed } := by
  obtain ⟨hidle, hcredit, hhead, hentries, hentry, hdata, hsent, hsubmitted, hslots, hempty,
    hdone⟩ := h
  rw [hround] at hcredit hdata hslots hempty hdone
  refine ⟨fun hfree => absurd hfree hlck, hcredit, hhead, hentries, hentry, hdata, hsent,
    hsubmitted, hslots, hempty, ?_⟩
  show q.done ++ [j] = q.submitters.take (q.notified + 1)
  rw [hdone, List.take_add_one, hj]
  rfl

/-- Its slot of `tres` is cleared, and no other. -/
theorem clear (h : q.Ok) (hround : q.round = .completed) (hlck : q.lck ≠ none) :
    BceQueueCmdq.Ok { q with
      tres := Function.update q.tres q.sq.head none
      round := .cleared } := by
  have hq := h
  obtain ⟨htaken, haccepted, -⟩ := h.counts
  obtain ⟨hidle, hcredit, hhead, hentries, hentry, hdata, hsent, hsubmitted, hslots, hempty,
    hdone⟩ := hq
  rw [hround] at hcredit hdata hslots hempty hdone htaken
  simp only [CmdqRound.emptied, CmdqRound.taken, Nat.add_zero] at hslots hempty htaken
  refine ⟨fun hfree => absurd hfree hlck, hcredit, hhead, hentries, hentry, hdata, hsent,
    hsubmitted, ?_, ?_, hdone⟩
  · intro k (hk : q.notified + 1 ≤ k) (hk' : k < q.submitters.length)
    -- the slot cleared is that of the oldest command, and of no other
    have hne : k % q.sq.elCount ≠ q.sq.head := by
      intro heq
      have hk := h.slot_inj (heq.trans hhead) (by omega) (by omega) le_rfl (by omega)
      omega
    show Function.update q.tres q.sq.head none (k % q.sq.elCount) = _
    rw [Function.update_of_ne hne]
    exact hslots k (by omega) hk'
  · intro slot j (hslot : Function.update q.tres q.sq.head none slot = some j)
    have hne : slot ≠ q.sq.head := by
      rintro rfl
      simp at hslot
    rw [Function.update_of_ne hne] at hslot
    obtain ⟨k, hk, hk', rfl⟩ := hempty slot j hslot
    have hfirst : k ≠ q.notified := by
      rintro rfl
      exact hne hhead.symm
    exact ⟨k, show q.notified + 1 ≤ k by omega, hk', rfl⟩

/-- The slot is given back. -/
theorem notify (h : q.Ok) (hround : q.round = .cleared) :
    BceQueueCmdq.Ok { q with
      sq := { q.sq with
        head := (q.sq.head + 1) % q.sq.elCount
        availableCommands := q.sq.availableCommands + 1 }
      notified := q.notified + 1
      round := .idle } := by
  obtain ⟨hidle, ⟨b, d, hcredit, haccepted, hlength⟩, hhead, hentries, hentry, hdata, hsent,
    hsubmitted, hslots, hempty, hdone⟩ := h
  rw [hround] at hcredit haccepted hdata hslots hempty hdone
  refine ⟨fun _ => rfl, ⟨b, d, hcredit.release, haccepted, hlength⟩, ?_, hentries, hentry, hdata,
    hsent, hsubmitted, hslots, hempty, hdone⟩
  show (q.sq.head + 1) % q.sq.elCount = (q.notified + 1) % q.sq.elCount
  rw [hhead, Nat.mod_add_mod]

/-- The device completes a command. -/
theorem complete (h : q.Ok) (hlt : q.completions.length < q.submitted) (d : BceSqCompletionData) :
    BceQueueCmdq.Ok { q with
      completions := q.completions ++ [d]
      cqes := q.cqes ++ [deviceEntry q.sq q.completions.length d] } := by
  have hentries := h.entries
  refine ⟨h.idle, h.credit, h.head, ?_, ?_, ?_, ?_, h.submitted, h.slots, h.empty, h.done⟩
  · simp only [List.length_append, List.length_singleton]
    omega
  · intro j e (he : (q.cqes ++ [_])[j]? = some e)
    show ∃ d', (q.completions ++ [d])[q.accepted + j]? = some d' ∧ _
    obtain hj | rfl : j < q.cqes.length ∨ j = q.cqes.length := by
      have hj := (List.getElem?_eq_some_iff.mp he).1
      simp only [List.length_append, List.length_singleton] at hj
      omega
    · rw [List.getElem?_append_left hj] at he
      obtain ⟨d', hd', rfl⟩ := h.entry j e he
      exact ⟨d', by rw [List.getElem?_append_left (by omega)]; exact hd', rfl⟩
    · rw [hentries]
      simp only [List.getElem?_concat_length, Option.some.injEq] at he ⊢
      exact ⟨d, rfl, he.symm⟩
  · intro k hk (hk' : k < q.accepted)
    show (q.completions ++ [d])[k]? = _
    rw [List.getElem?_append_left (by omega)]
    exact h.data k hk hk'
  · show (q.completions ++ [d]).length ≤ q.submitted
    rw [List.length_append]
    exact hlt

/-- The driver handles an entry: its index is the one it expects. -/
theorem accept (h : q.Ok) {e : BceQeCompletion} {rest : List BceQeCompletion}
    (hcqes : q.cqes = e :: rest) :
    BceQueueCmdq.Ok { q with
      sq := q.sq.handleCompletion e
      cqes := rest
      accepted := q.accepted + 1 } := by
  obtain ⟨d, hd, he⟩ := h.entry 0 e (by rw [hcqes]; rfl)
  rw [Nat.add_zero] at hd he
  have hentries := h.entries
  rw [hcqes, List.length_cons] at hentries
  have hbound := hentries ▸ h.sent.trans h.submitted
  obtain ⟨-, htail, -⟩ := h.indices
  obtain ⟨htaken, -, -⟩ := h.counts
  -- entries come in the order of their completions, so none is rejected
  have hindex : ¬q.sq.completionTail ≠ e.completionIndex := by
    rw [htail, he]
    exact not_not.mpr rfl
  obtain ⟨b, c, hcredit, haccepted, hlength⟩ := h.credit
  obtain ⟨c, rfl⟩ := Nat.exists_eq_succ_of_ne_zero (show c ≠ 0 by omega)
  unfold BceQueueSq.handleCompletion
  rw [if_neg hindex]
  refine ⟨h.idle, ⟨b + 1, c, ?_, ?_, ?_⟩, h.head, ?_, ?_, ?_, h.sent, h.submitted, h.slots, h.empty,
    h.done⟩
  · exact (hcredit.of_eq rfl rfl rfl rfl rfl rfl :
      SqCredit { q.sq with hasPendingCompletions := true } _ _ _ _).store e
  · show q.accepted + 1 = q.notified + q.round.taken + (b + 1)
    omega
  · show q.submitters.length = q.accepted + 1 + c
    omega
  · show q.accepted + 1 + rest.length = q.completions.length
    omega
  · intro j e' (he' : rest[j]? = some e')
    obtain ⟨d', hd', rfl⟩ := h.entry (j + 1) e' (by rw [hcqes]; exact he')
    have hj : q.accepted + (j + 1) = q.accepted + 1 + j := by omega
    rw [hj] at hd' ⊢
    exact ⟨d', hd', rfl⟩
  · intro k (hk : q.notified + q.round.taken ≤ k) (hk' : k < q.accepted + 1)
    show q.completions[k]? = some (Function.update q.sq.completionData e.completionIndex
      ⟨e.status, e.dataSize, e.result⟩ (k % q.sq.elCount))
    rw [he]
    obtain hlt | rfl : k < q.accepted ∨ k = q.accepted := by omega
    · have hne : k % q.sq.elCount ≠ q.accepted % q.sq.elCount := by
        intro heq
        have hk := h.slot_inj heq (by omega) (by omega) (by omega) (by omega)
        omega
      rw [show (deviceEntry q.sq q.accepted d).completionIndex = q.accepted % q.sq.elCount from rfl,
        Function.update_of_ne hne]
      exact h.data k hk hlt
    · rw [show (deviceEntry q.sq q.accepted d).completionIndex = q.accepted % q.sq.elCount from rfl,
        Function.update_self]
      exact hd

end BceQueueCmdq.Ok

end Ring

/-! ## Threads -/

section Places

variable {ι : Type}

def CmdqThread.HoldsLock : CmdqThread ι → Prop
  | .started _ | .submitted _ | .looking | .storing _ | .signalling _ | .clearing | .notifying
  | .counting | .waking | .unlocking => True
  | _ => False

/-- How far the thread is with the completion it has consumed. -/
def CmdqThread.round : CmdqThread ι → CmdqRound
  | .storing _ | .signalling _ => .consumed
  | .clearing => .completed
  | .notifying => .cleared
  | _ => .idle

/-- The command the thread has in the ring, or waits for. -/
def CmdqThread.seq? : CmdqThread ι → Option Nat
  | .started seq | .submitted seq | .waiting seq => some seq
  | _ => none

/-- The command is issued, and has no slot yet. -/
def CmdqThread.Starting : CmdqThread ι → Prop
  | .reserving _ | .reserved => True
  | _ => False

/-- The thread has a reservation, and no slot yet. -/
def CmdqThread.hasReservation : CmdqThread ι → Bool
  | .reserved => true
  | _ => false

theorem CmdqThread.Free.outside {l : CmdqThread ι} (h : l.Free) :
    ¬l.HoldsLock ∧ l.seq? = none := by
  cases l with
  | idle | returned => exact ⟨id, rfl⟩
  | _ => exact h.elim

theorem CmdqThread.Free.hasReservation {l : CmdqThread ι} (h : l.Free) :
    l.hasReservation = false := by
  cases l with
  | idle | returned => rfl
  | _ => exact h.elim

theorem CmdqThread.waiting_of_seq? {l : CmdqThread ι} {k : Nat} (h : l.seq? = some k)
    (hout : ¬l.HoldsLock) : l = .waiting k := by
  cases l with
  | waiting =>
    cases h
    rfl
  | started | submitted => exact absurd trivial hout
  | _ => cases h

/-- The record of thread `i` has what the device answered to command `seq`. -/
def BceQueueCmdq.Stored (q : BceQueueCmdq ι) (i : ι) (seq : Nat) : Prop :=
  ∃ d, q.completions[seq]? = some d ∧ (q.el i).status = d.status ∧ (q.el i).result = d.result

/-- What holds of a thread. -/
structure CmdqOk (i : ι) (q : BceQueueCmdq ι) (l : CmdqThread ι) : Prop where
  lock : l.HoldsLock ↔ q.lck = some i
  round : l.HoldsLock → q.round = l.round
  own : ∀ k, q.done.length ≤ k → q.submitters[k]? = some i → l.seq? = some k
  seq : ∀ k, l.seq? = some k → q.submitters[k]? = some i
  fresh : l.Starting → (q.el i).cmpl = 0
  token : ∀ k, l.seq? = some k → (q.el i).cmpl = if k < q.done.length then 1 else 0
  stored : ∀ k, l.seq? = some k → k < q.done.length → q.Stored i k
  returned : ∀ k status, l = .returned (some k) status → q.submitters[k]? = some i ∧
    k < q.done.length ∧ (q.el i).cmpl = 0 ∧ status = (q.el i).status ∧ q.Stored i k
  storing : ∀ d, l = .storing d → q.completions[q.notified]? = some d
  signalling : ∀ j, l = .signalling j →
    q.submitters[q.notified]? = some j ∧ q.Stored j q.notified

abbrev CmdqAsserted (s : Threads ι (BceQueueCmdq ι) (CmdqThread ι)) : Prop :=
  ThreadProgram.Asserted BceQueueCmdq.Ok CmdqOk (fun _ _ _ _ => True) s

end Places

section Frames

variable {ι : Type} {i j : ι} {q q' : BceQueueCmdq ι} {l l' m : CmdqThread ι}

/-- What was answered stays so. -/
theorem BceQueueCmdq.Stored.mono {seq : Nat} (h : q.Stored i seq)
    (hcompletions : ∀ (k : Nat) d, q.completions[k]? = some d → q'.completions[k]? = some d)
    (hstatus : (q'.el i).status = (q.el i).status)
    (hresult : (q'.el i).result = (q.el i).result) : q'.Stored i seq := by
  obtain ⟨d, hd, hds, hdr⟩ := h
  exact ⟨d, hcompletions seq d hd, hstatus.trans hds, hresult.trans hdr⟩

/-- What is recorded of the commands is as it was, up to new answers of the device. -/
structure SameCommands (q q' : BceQueueCmdq ι) : Prop where
  submitters : q'.submitters = q.submitters
  done : q'.done = q.done
  completions : ∀ (k : Nat) d, q.completions[k]? = some d → q'.completions[k]? = some d

/-- A thread that goes on, to a place about which nothing is said but its command. -/
theorem CmdqOk.moved (h : CmdqOk i q l) (hsame : SameCommands q q')
    (hel : q'.el i = q.el i) (hlock : l'.HoldsLock ↔ q'.lck = some i)
    (hround : l'.HoldsLock → q'.round = l'.round) (hseq : l'.seq? = l.seq?)
    (hfresh : l'.Starting → l.Starting)
    (hreturned : ∀ k status, l' ≠ .returned (some k) status)
    (hstoring : ∀ d, l' ≠ .storing d) (hsignalling : ∀ j, l' ≠ .signalling j) :
    CmdqOk i q' l' := by
  obtain ⟨hsubmitters, hdone, hcompletions⟩ := hsame
  constructor
  · exact hlock
  · exact hround
  · rw [hdone, hsubmitters, hseq]
    exact h.own
  · rw [hsubmitters, hseq]
    exact h.seq
  · rw [hel]
    exact fun hl => h.fresh (hfresh hl)
  · rw [hel, hdone, hseq]
    exact h.token
  · rw [hdone, hseq]
    exact fun k hk hlt => (h.stored k hk hlt).mono hcompletions (by rw [hel]) (by rw [hel])
  · exact fun k status hl => absurd hl (hreturned k status)
  · exact fun d hl => absurd hl (hstoring d)
  · exact fun j hl => absurd hl (hsignalling j)

/-- A thread in the handler, which has no command of its own under way. -/
theorem CmdqOk.handling (hl : l.HoldsLock) (hseq : l.seq? = none) (hlck : q.lck = some i)
    (hround : q.round = l.round)
    (hown : ∀ k, q.done.length ≤ k → q.submitters[k]? = some i → l.seq? = some k)
    (hstoring : ∀ d, l = .storing d → q.completions[q.notified]? = some d)
    (hsignalling : ∀ j, l = .signalling j →
      q.submitters[q.notified]? = some j ∧ q.Stored j q.notified) : CmdqOk i q l where
  lock := ⟨fun _ => hlck, fun _ => hl⟩
  round _ := hround
  own := hown
  seq k hk := absurd (hseq.symm.trans hk) nofun
  fresh hs := by
    cases l with
    | reserving | reserved => exact hl.elim
    | _ => exact hs.elim
  token k hk := absurd (hseq.symm.trans hk) nofun
  stored k hk := absurd (hseq.symm.trans hk) nofun
  returned k status hr := by
    rw [hr] at hl
    exact hl.elim
  storing := hstoring
  signalling := hsignalling

/-- A thread under a step of another, or of the device, outside `lck`. -/
theorem CmdqOk.beside (h : CmdqOk j q m) (hsame : SameCommands q q') (hel : q'.el j = q.el j)
    (hlck : q'.lck = q.lck) (hround : q'.round = q.round) (hnotified : q'.notified = q.notified)
    (hstored : ∀ k, m = .signalling k →
      (q'.el k).status = (q.el k).status ∧ (q'.el k).result = (q.el k).result) :
    CmdqOk j q' m := by
  obtain ⟨hsubmitters, hdone, hcompletions⟩ := hsame
  constructor
  · rw [hlck]
    exact h.lock
  · rw [hround]
    exact h.round
  · rw [hdone, hsubmitters]
    exact h.own
  · rw [hsubmitters]
    exact h.seq
  · rw [hel]
    exact h.fresh
  · rw [hel, hdone]
    exact h.token
  · rw [hdone]
    exact fun k hk hlt => (h.stored k hk hlt).mono hcompletions (by rw [hel]) (by rw [hel])
  · rw [hel, hdone, hsubmitters]
    intro k status hl
    obtain ⟨hk, hlt, hcmpl, hstatus, hstored'⟩ := h.returned k status hl
    exact ⟨hk, hlt, hcmpl, hstatus, hstored'.mono hcompletions (by rw [hel]) (by rw [hel])⟩
  · rw [hnotified]
    exact fun d hl => hcompletions _ _ (h.storing d hl)
  · rw [hnotified, hsubmitters]
    intro k hl
    obtain ⟨hk, hstored'⟩ := h.signalling k hl
    obtain ⟨hstatus, hresult⟩ := hstored k hl
    exact ⟨hk, hstored'.mono hcompletions hstatus hresult⟩

/-- A thread without `lck`, under a step of the one that has it or takes it. -/
theorem CmdqOk.without (h : CmdqOk j q m) (hout : ¬m.HoldsLock) (hlck : q'.lck ≠ some j)
    (hsubmitters : ∀ k : Nat, q'.submitters[k]? = some j ↔ q.submitters[k]? = some j)
    (hdone : q'.done = q.done) (hcompletions : q'.completions = q.completions)
    (hel : q'.el j = q.el j) : CmdqOk j q' m := by
  have hstored : ∀ {k}, q.Stored j k → q'.Stored j k := fun hk =>
    hk.mono (fun k d hd => by rw [hcompletions]; exact hd) (by rw [hel]) (by rw [hel])
  constructor
  · exact ⟨fun hm => absurd hm hout, fun hm => absurd hm hlck⟩
  · exact fun hm => absurd hm hout
  · rw [hdone]
    exact fun k hk hkj => h.own k hk ((hsubmitters k).mp hkj)
  · exact fun k hk => (hsubmitters k).mpr (h.seq k hk)
  · rw [hel]
    exact h.fresh
  · rw [hel, hdone]
    exact h.token
  · rw [hdone]
    exact fun k hk hlt => hstored (h.stored k hk hlt)
  · rw [hel, hdone]
    intro k status hl
    obtain ⟨hk, hlt, hcmpl, hstatus, hstored'⟩ := h.returned k status hl
    exact ⟨(hsubmitters k).mpr hk, hlt, hcmpl, hstatus, hstored hstored'⟩
  · rintro d rfl
    exact absurd trivial hout
  · rintro k rfl
    exact absurd trivial hout

/-- A thread that waits, when its command is answered. -/
theorem CmdqOk.answered (h : CmdqOk j q m) (hout : ¬m.HoldsLock) (hlck : q'.lck ≠ some j) {k : Nat}
    (hseq : m.seq? = some k) (hk : q.done.length ≤ k) (hsubmitters : q'.submitters = q.submitters)
    (hdone : q'.done = q.done) (hcmpl : (q'.el j).cmpl = (q.el j).cmpl) : CmdqOk j q' m := by
  obtain rfl := CmdqThread.waiting_of_seq? hseq hout
  constructor
  · exact ⟨False.elim, fun ho => absurd ho hlck⟩
  · exact False.elim
  · rw [hdone, hsubmitters]
    exact h.own
  · rw [hsubmitters]
    exact h.seq
  · exact False.elim
  · rw [hcmpl, hdone]
    exact h.token
  · rw [hdone]
    intro k' hk' hlt
    obtain rfl := Option.some.inj hk'
    omega
  · exact nofun
  · exact nofun
  · exact nofun

/-- A thread that waits, when its record is completed. -/
theorem CmdqOk.completed (h : CmdqOk j q m) (hout : ¬m.HoldsLock) (hlck : q'.lck ≠ some j)
    (hseq : m.seq? = some q.done.length) (hsubmitters : q'.submitters = q.submitters)
    (hdone : q'.done = q.done ++ [j]) (hcmpl : (q'.el j).cmpl = (q.el j).cmpl + 1)
    (hstored : q'.Stored j q.done.length) : CmdqOk j q' m := by
  obtain rfl := CmdqThread.waiting_of_seq? hseq hout
  have hlength : q'.done.length = q.done.length + 1 := by simp [hdone]
  constructor
  · exact ⟨False.elim, fun ho => absurd ho hlck⟩
  · exact False.elim
  · rw [hlength, hsubmitters]
    exact fun k hk => h.own k (by omega)
  · rw [hsubmitters]
    exact h.seq
  · exact False.elim
  · intro k hk
    obtain rfl := Option.some.inj hk
    rw [hcmpl, h.token _ rfl, if_neg (Nat.lt_irrefl _), if_pos (by omega)]
  · intro k hk _
    obtain rfl := Option.some.inj hk
    exact hstored
  · exact nofun
  · exact nofun
  · exact nofun

/-- A thread under the completion of the record of another. -/
theorem CmdqOk.passedOver (h : CmdqOk j q m) (hout : ¬m.HoldsLock) (hlck : q'.lck ≠ some j)
    {k : ι} (hk : q.submitters[q.done.length]? = some k) (hjk : j ≠ k)
    (hsubmitters : q'.submitters = q.submitters) (hdone : q'.done = q.done ++ [k])
    (hcompletions : q'.completions = q.completions) (hel : q'.el j = q.el j) : CmdqOk j q' m := by
  have hlength : q'.done.length = q.done.length + 1 := by simp [hdone]
  have hstored : ∀ {n}, q.Stored j n → q'.Stored j n := fun hn =>
    hn.mono (fun n d hd => by rw [hcompletions]; exact hd) (by rw [hel]) (by rw [hel])
  have hother : ∀ {n}, m.seq? = some n → n ≠ q.done.length := by
    rintro n hn rfl
    exact hjk (Option.some.inj ((h.seq _ hn).symm.trans hk))
  constructor
  · exact ⟨fun hm => absurd hm hout, fun ho => absurd ho hlck⟩
  · exact fun hm => absurd hm hout
  · rw [hlength, hsubmitters]
    exact fun n hn => h.own n (by omega)
  · rw [hsubmitters]
    exact h.seq
  · rw [hel]
    exact h.fresh
  · intro n hn
    have hne := hother hn
    rw [hel, h.token n hn, hlength]
    simp only [show n < q.done.length + 1 ↔ n < q.done.length by omega]
  · rw [hlength]
    intro n hn hlt
    have hne := hother hn
    exact hstored (h.stored n hn (by omega))
  · rw [hel, hlength, hsubmitters]
    intro n status hl
    obtain ⟨hn, hlt, hcmpl, hstatus, hstored'⟩ := h.returned n status hl
    exact ⟨hn, by omega, hcmpl, hstatus, hstored hstored'⟩
  · rintro d rfl
    exact absurd trivial hout
  · rintro n rfl
    exact absurd trivial hout

end Frames

/-! ## Every step keeps the assertions -/

section Keeps

variable {ι : Type} [DecidableEq ι] {s : Threads ι (BceQueueCmdq ι) (CmdqThread ι)} {i j : ι}
  {l₀ l : CmdqThread ι} {q : BceQueueCmdq ι}

omit [DecidableEq ι] in
/-- The thread that holds `lck`. -/
theorem CmdqAsserted.lock (h : CmdqAsserted s) (hl : s.thread i = l₀) (hm : l₀.HoldsLock) :
    s.shared.lck = some i ∧ s.shared.round = l₀.round := by
  subst hl
  exact ⟨(h.thread i).lock.mp hm, (h.thread i).round hm⟩

omit [DecidableEq ι] in
/-- The command whose completion is consumed, and the thread that waits for it. -/
theorem CmdqAsserted.consumed (h : CmdqAsserted s) (hround : s.shared.round = .consumed) :
    s.shared.done.length = s.shared.notified ∧
      ∃ k, s.shared.submitters[s.shared.notified]? = some k ∧
        s.shared.tres s.shared.sq.head = some k ∧ (s.thread k).seq? = some s.shared.notified := by
  have hdone := h.shared.done_length
  obtain ⟨htaken, haccepted, -⟩ := h.shared.counts
  have hslots := h.shared.slots s.shared.notified
  rw [hround] at hdone htaken hslots
  simp only [CmdqRound.answered, CmdqRound.taken, CmdqRound.emptied, Nat.add_zero]
    at hdone htaken hslots
  have hlt : s.shared.notified < s.shared.submitters.length := by omega
  obtain ⟨k, hk⟩ : ∃ k, s.shared.submitters[s.shared.notified]? = some k :=
    ⟨_, List.getElem?_eq_getElem hlt⟩
  refine ⟨hdone, k, hk, ?_, (h.thread k).own _ hdone.le hk⟩
  rw [h.shared.head, hslots le_rfl hlt]
  exact hk

/-- What holds of the queue. -/
theorem CmdqAsserted.ok (h : CmdqAsserted s) (hl : s.thread i = l₀)
    (hheld : l₀ = .reserved → 0 < s.shared.held) (heff : CmdqStep i l₀ l s.shared q) : q.Ok := by
  have hi := h.thread i
  rw [hl] at hi
  have hlck : l₀.HoldsLock → s.shared.lck ≠ none := fun hm hfree =>
    absurd ((h.lock hl hm).1.symm.trans hfree) nofun
  cases heff with
  | start | store | woke => exact h.shared.locked _ h.shared.idle _
  | waited hring hcredit | refused hring hcredit | claim hring hcredit =>
    exact h.shared.ring hring hcredit
  | next _ hring hcredit => exact h.shared.ring hring hcredit
  | reserved hring hcredit => exact h.shared.ring hring hcredit
  | slot => exact h.shared.take (hheld rfl) i
  | submit => exact h.shared.submit
  | unlock | unlocked => exact h.shared.locked _ (fun _ => hi.round trivial) _
  | lock => exact h.shared.locked (some i) nofun _
  | handle | nothing | missing => exact h.shared
  | consume hnext => exact (h.shared.consume (hi.round trivial) hnext (hlck trivial)).1
  | signal =>
    exact h.shared.signal (hi.round trivial) (hlck trivial) (hi.signalling _ rfl).1 _
  | clear => exact h.shared.clear (hi.round trivial) (hlck trivial)
  | notify => exact h.shared.notify (hi.round trivial)

/-- What holds of the thread that took the step. -/
theorem CmdqAsserted.self (h : CmdqAsserted s) (hl : s.thread i = l₀)
    (heff : CmdqStep i l₀ l s.shared q) : CmdqOk i q l := by
  have hi := h.thread i
  rw [hl] at hi
  cases heff with
  | start hfree =>
    obtain ⟨hout, hseq⟩ := hfree.outside
    constructor
    · exact ⟨False.elim, fun ho => hout (hi.lock.mpr ho)⟩
    · exact False.elim
    · exact fun k hk hki => absurd (hseq.symm.trans (hi.own k hk hki)) nofun
    · exact nofun
    · exact fun _ => by simp
    · exact nofun
    · exact nofun
    · exact nofun
    · exact nofun
    · exact nofun
  | waited | reserved | refused =>
    exact hi.moved ⟨rfl, rfl, fun _ _ => id⟩ rfl hi.lock False.elim rfl
      (fun _ => trivial) nofun nofun
      nofun
  | handle hfree =>
    obtain ⟨hout, hseq⟩ := hfree.outside
    exact hi.moved ⟨rfl, rfl, fun _ _ => id⟩ rfl
      ⟨False.elim, fun ho => hout (hi.lock.mpr ho)⟩ False.elim hseq.symm False.elim
      nofun nofun nofun
  | slot hfree =>
    have hle : s.shared.done.length ≤ s.shared.submitters.length := by
      rw [h.shared.done, List.length_take]
      exact Nat.min_le_right ..
    constructor
    · exact ⟨fun _ => rfl, fun _ => trivial⟩
    · exact fun _ => h.shared.idle hfree
    · intro k hk (hki : (s.shared.submitters ++ [i])[k]? = some i)
      obtain hlt | hge := Nat.lt_or_ge k s.shared.submitters.length
      · rw [List.getElem?_append_left hlt] at hki
        -- it had no command in the ring before
        exact absurd (hi.own k hk hki) nofun
      · have hlast := (List.getElem?_eq_some_iff.mp hki).1
        rw [List.length_append, List.length_singleton] at hlast
        exact congrArg some (by omega)
    · intro k hk
      obtain rfl := Option.some.inj hk
      exact List.getElem?_concat_length
    · exact False.elim
    · intro k hk
      obtain rfl := Option.some.inj hk
      rw [if_neg (show ¬s.shared.submitters.length < s.shared.done.length by omega)]
      exact hi.fresh trivial
    · intro k hk (hlt : k < s.shared.done.length)
      obtain rfl := Option.some.inj hk
      omega
    · exact nofun
    · exact nofun
    · exact nofun
  | submit | nothing =>
    obtain ⟨hlock, hround⟩ := h.lock hl trivial
    exact hi.moved ⟨rfl, rfl, fun _ _ => id⟩ rfl ⟨fun _ => hlock, fun _ => trivial⟩
      (fun _ => hround) rfl id nofun nofun nofun
  | unlock | unlocked =>
    exact hi.moved ⟨rfl, rfl, fun _ _ => id⟩ rfl ⟨False.elim, nofun⟩ False.elim rfl id nofun nofun
      nofun
  | lock hfree =>
    exact hi.moved ⟨rfl, rfl, fun _ _ => id⟩ rfl ⟨fun _ => rfl, fun _ => trivial⟩
      (fun _ => h.shared.idle hfree) rfl id nofun nofun nofun
  | notify | clear =>
    have hlock := (h.lock hl trivial).1
    exact hi.moved ⟨rfl, rfl, fun _ _ => id⟩ rfl ⟨fun _ => hlock, fun _ => trivial⟩
      (fun _ => rfl) rfl id nofun nofun nofun
  | claim =>
    obtain ⟨hlock, hround⟩ := h.lock hl trivial
    exact hi.moved ⟨rfl, rfl, fun _ _ => id⟩ rfl ⟨fun _ => hlock, fun _ => trivial⟩
      (fun _ => hround) rfl id nofun nofun nofun
  | next hplace =>
    obtain ⟨hlock, hround, hseq⟩ : s.shared.lck = some i ∧ s.shared.round = .idle ∧
        l₀.seq? = none := by
      obtain rfl | rfl := hplace
      · exact ⟨(h.lock hl trivial).1, (h.lock hl trivial).2, rfl⟩
      · exact ⟨(h.lock hl trivial).1, (h.lock hl trivial).2, rfl⟩
    exact hi.moved ⟨rfl, rfl, fun _ _ => id⟩ rfl ⟨fun _ => hlock, fun _ => trivial⟩
      (fun _ => hround) hseq.symm False.elim nofun nofun nofun
  | @woke seq _ htoken =>
    have hcmpl := hi.token seq rfl
    -- a token is there only once its record is completed
    have hdone : seq < s.shared.done.length := by
      by_contra hge
      rw [if_neg hge] at hcmpl
      omega
    rw [if_pos hdone] at hcmpl
    constructor
    · exact hi.lock
    · exact False.elim
    · intro k hk hki
      have hseq := Option.some.inj (hi.own k hk hki)
      exact absurd (hseq ▸ hdone) (Nat.not_lt.mpr hk)
    · exact nofun
    · exact False.elim
    · exact nofun
    · exact nofun
    · rintro k status hl'
      obtain ⟨rfl, rfl⟩ : seq = k ∧ (s.shared.el i).status = status := by simpa using hl'
      refine ⟨hi.seq seq rfl, hdone, ?_, ?_, ?_⟩
      · simp [hcmpl]
      · simp
      · exact (hi.stored seq rfl hdone).mono (fun _ _ => id) (by simp) (by simp)
    · exact nofun
    · exact nofun
  | consume hnext =>
    obtain ⟨hlock, hround⟩ := h.lock hl trivial
    have hfirst := (h.shared.consume hround hnext (by rw [hlock]; exact nofun)).2
    refine .handling trivial rfl hlock rfl hi.own ?_ nofun
    rintro d hd
    cases hd
    exact hfirst
  | @store result j _ hel =>
    obtain ⟨hlock, hround⟩ := h.lock hl trivial
    obtain ⟨-, k, hk, hhead, -⟩ := h.consumed hround
    obtain rfl := Option.some.inj (hel.symm.trans hhead)
    refine .handling trivial rfl hlock hround hi.own nofun ?_
    rintro j' hj'
    cases hj'
    exact ⟨hk, result, hi.storing result rfl, by simp, by simp⟩
  | missing hel =>
    obtain ⟨-, k, -, hhead, -⟩ := h.consumed (h.lock hl trivial).2
    exact absurd (hel.symm.trans hhead) nofun
  | signal =>
    obtain ⟨hlock, -⟩ := h.lock hl trivial
    refine .handling trivial rfl hlock rfl (fun k hk hki => ?_) nofun nofun
    rw [List.length_append] at hk
    exact hi.own k (by omega) hki

omit [DecidableEq ι] in
/-- The thread the handler is about to complete is not in between two commands. -/
theorem CmdqAsserted.signalled_waits (h : CmdqAsserted s) {k : ι}
    (hl : s.thread i = .signalling k) :
    s.shared.done.length = s.shared.notified ∧ (s.thread k).seq? = some s.shared.notified := by
  obtain ⟨hdone, k', hk', -, hseq⟩ := h.consumed (h.lock hl trivial).2
  have hi := h.thread i
  rw [hl] at hi
  obtain rfl := Option.some.inj (hk'.symm.trans (hi.signalling k rfl).1)
  exact ⟨hdone, hseq⟩

/-- What holds of the other threads. -/
theorem CmdqAsserted.other (h : CmdqAsserted s) (hl : s.thread i = l₀)
    (heff : CmdqStep i l₀ l s.shared q) (hij : j ≠ i) : CmdqOk j q (s.thread j) := by
  have hj := h.thread j
  have hi := h.thread i
  rw [hl] at hi
  have hne : some i ≠ some j := fun heq => hij (Option.some.inj heq).symm
  have hout : s.shared.lck = some i → ¬(s.thread j).HoldsLock := fun hlock hm =>
    hne (hlock.symm.trans (hj.lock.mp hm))
  have hfreeout : s.shared.lck = none → ¬(s.thread j).HoldsLock := fun hfree hm =>
    absurd (hfree.symm.trans (hj.lock.mp hm)) nofun
  cases heff with
  | waited | reserved | refused =>
    exact hj.beside ⟨rfl, rfl, fun _ _ => id⟩ rfl rfl rfl rfl fun _ _ => ⟨rfl, rfl⟩
  | handle | nothing | missing => exact hj
  | start hfree =>
    refine hj.beside ⟨rfl, rfl, fun _ _ => id⟩ (Function.update_of_ne hij ..) rfl rfl rfl
      fun k hk => ?_
    -- the record about to be completed is not that of a thread between calls
    have hki : k ≠ i := by
      rintro rfl
      have hseq := (h.signalled_waits hk).2
      rw [hl, hfree.outside.2] at hseq
      cases hseq
    simp [Function.update_of_ne hki]
  | slot hfree =>
    refine hj.without (hfreeout hfree) hne (fun k => ?_) rfl rfl rfl
    show (s.shared.submitters ++ [i])[k]? = some j ↔ _
    constructor
    · intro hk
      obtain hlt | hge := Nat.lt_or_ge k s.shared.submitters.length
      · rwa [List.getElem?_append_left hlt] at hk
      · have hmem := List.mem_of_getElem? (List.getElem?_append_right hge ▸ hk)
        exact absurd (List.mem_singleton.mp hmem) hij
    · intro hk
      rwa [List.getElem?_append_left (List.getElem?_eq_some_iff.mp hk).1]
  | submit =>
    exact hj.beside ⟨rfl, rfl, fun _ _ => id⟩ rfl rfl rfl rfl fun _ _ => ⟨rfl, rfl⟩
  | unlock | unlocked =>
    exact hj.without (hout (h.lock hl trivial).1) nofun (fun _ => Iff.rfl) rfl rfl rfl
  | woke =>
    refine hj.beside ⟨rfl, rfl, fun _ _ => id⟩ (Function.update_of_ne hij ..) rfl rfl rfl
      fun k _ => ?_
    by_cases hki : k = i
    · subst hki
      simp
    · simp [Function.update_of_ne hki]
  | lock hfree => exact hj.without (hfreeout hfree) hne (fun _ => Iff.rfl) rfl rfl rfl
  | consume | clear | notify | claim =>
    have hlock := (h.lock hl trivial).1
    exact hj.without (hout hlock) (hlock ▸ hne) (fun _ => Iff.rfl) rfl rfl rfl
  | next hplace =>
    have hlock : s.shared.lck = some i := by
      obtain rfl | rfl := hplace
      · exact (h.lock hl trivial).1
      · exact (h.lock hl trivial).1
    exact hj.without (hout hlock) (hlock ▸ hne) (fun _ => Iff.rfl) rfl rfl rfl
  | @store result k _ hel =>
    obtain ⟨hlock, hround⟩ := h.lock hl trivial
    obtain ⟨hdone, k', hk', hhead, hseq⟩ := h.consumed hround
    obtain rfl := Option.some.inj (hel.symm.trans hhead)
    by_cases hjk : j = k
    · subst hjk
      exact hj.answered (hout hlock) (hlock ▸ hne) hseq hdone.le rfl rfl (by simp)
    · exact hj.without (hout hlock) (hlock ▸ hne) (fun _ => Iff.rfl) rfl rfl
        (Function.update_of_ne hjk ..)
  | @signal k _ =>
    obtain ⟨hlock, hround⟩ := h.lock hl trivial
    obtain ⟨hdone, hseq⟩ := h.signalled_waits hl
    obtain ⟨hk, hstored⟩ := hi.signalling k rfl
    by_cases hjk : j = k
    · subst hjk
      refine hj.completed (hout hlock) (hlock ▸ hne) (hdone ▸ hseq) rfl rfl (by simp) ?_
      rw [hdone]
      exact hstored.mono (fun _ _ => id) (by simp) (by simp)
    · exact hj.passedOver (hout hlock) (hlock ▸ hne) (hdone ▸ hk) hjk rfl rfl rfl
        (Function.update_of_ne hjk ..)

omit [DecidableEq ι] in
/-- What the device and `bce_handle_cq_completion` do. -/
theorem CmdqAsserted.event {e : CmdqEvent} (h : CmdqAsserted s)
    (hstep : cmdqEvent e s.shared = some q) : q.Ok ∧ ∀ j, CmdqOk j q (s.thread j) := by
  cases e with
  | complete d =>
    simp only [cmdqEvent] at hstep
    split at hstep
    · next hlt =>
      cases hstep
      refine ⟨h.shared.complete hlt d, fun j => ?_⟩
      refine (h.thread j).beside ⟨rfl, rfl, fun k d' hd' => ?_⟩ rfl rfl rfl rfl
        fun _ _ => ⟨rfl, rfl⟩
      exact (List.getElem?_append_left (List.getElem?_eq_some_iff.mp hd').1).trans hd'
    · cases hstep
  | accept =>
    simp only [cmdqEvent] at hstep
    split at hstep
    · cases hstep
    · next hcqes =>
      cases hstep
      exact ⟨h.shared.accept hcqes, fun j => (h.thread j).beside ⟨rfl, rfl, fun _ _ => id⟩ rfl rfl
        rfl rfl fun _ _ => ⟨rfl, rfl⟩⟩

end Keeps

section Runs

variable {ι : Type} [DecidableEq ι] [Fintype ι]
  {s : Threads ι (BceQueueCmdq ι) (CmdqThread ι)}

omit [DecidableEq ι] [Fintype ι] in
theorem cmdqEvent_held {e : CmdqEvent} {q q' : BceQueueCmdq ι} (hstep : cmdqEvent e q = some q') :
    q'.held = q.held := by
  cases e with
  | complete d =>
    simp only [cmdqEvent] at hstep
    split at hstep
    · cases hstep
      rfl
    · cases hstep
  | accept =>
    simp only [cmdqEvent] at hstep
    split at hstep
    · cases hstep
    · cases hstep
      rfl

/-- The reservations not yet used are those of the threads about to take a slot. -/
theorem cmdq_held {G : ThreadAction ι CmdqChoice CmdqEvent → _ → Prop}
    (h : (cmdqProgram ι).system.Reachable G s) :
    s.shared.held = threadCount CmdqThread.hasReservation s.thread := by
  refine StepSystem.Reachable.invariant
    (I := fun s => s.shared.held = threadCount CmdqThread.hasReservation s.thread) ?_ ?_ h
  · rintro s ⟨⟨qid, elCount, -, hinit⟩, hstart⟩
    rw [hinit, eq_comm]
    exact threadCount_eq_zero.mpr fun i => by rw [hstart i]; rfl
  · intro a s s' _ hheld _ hstep
    obtain ⟨i, c, l, q, rfl, hrun, rfl⟩ | ⟨e, q, rfl, henv, rfl⟩ := ThreadProgram.step_cases hstep
    · have hmoved := threadCount_update CmdqThread.hasReservation s.thread i l
      have hle := le_threadCount CmdqThread.hasReservation s.thread i
      rw [← hheld] at hmoved hle
      generalize hl : s.thread i = l₀ at hrun hmoved hle
      show q.held = threadCount CmdqThread.hasReservation (Function.update s.thread i l)
      cases cmdqRun_spec hrun with
      | start hfree | handle hfree =>
        rw [hfree.hasReservation] at hmoved
        exact hmoved.symm
      -- taking the slot uses the reservation up
      | slot =>
        have hcount : threadCount CmdqThread.hasReservation
            (Function.update s.thread i (.started s.shared.submitters.length)) + 1 =
          s.shared.held := hmoved
        show s.shared.held - 1 = _
        omega
      | next hplace =>
        obtain rfl | rfl := hplace
        · exact hmoved.symm
        · exact hmoved.symm
      | _ => exact hmoved.symm
    · rw [show ({ s with shared := q } : Threads _ _ _).thread = s.thread from rfl, ← hheld]
      exact cmdqEvent_held henv

/-- The assertions hold in every reachable state. -/
theorem cmdq_asserted {G : ThreadAction ι CmdqChoice CmdqEvent → _ → Prop}
    (h : (cmdqProgram ι).system.Reachable G s) : CmdqAsserted s := by
  refine ThreadProgram.invariant ?_ ?_ ?_ h
  · rintro q ⟨qid, elCount, hpos, rfl⟩
    refine ⟨⟨fun _ => rfl, ⟨0, 0, .init hpos, rfl, rfl⟩, (Nat.zero_mod _).symm, rfl, nofun,
      fun k _ hk => absurd hk (Nat.not_lt_zero k), le_rfl, le_rfl,
      fun k _ hk => absurd hk (Nat.not_lt_zero k), nofun, rfl⟩, fun i => ?_, fun _ _ => trivial⟩
    exact ⟨⟨False.elim, nofun⟩, False.elim, nofun, nofun, False.elim, nofun, nofun, nofun, nofun,
      nofun⟩
  · intro s i c l q hreach (hI : CmdqAsserted s) _ hstep
    have heff := cmdqRun_spec hstep
    have hheld : s.thread i = .reserved → 0 < s.shared.held := by
      intro hl
      have hle := le_threadCount CmdqThread.hasReservation s.thread i
      rw [← cmdq_held hreach, hl] at hle
      exact hle
    exact ⟨hI.ok rfl hheld heff, hI.self rfl heff, fun j hij =>
      ⟨hI.other rfl heff hij, trivial, trivial⟩⟩
  · intro s e q _ (hI : CmdqAsserted s) _ hstep
    exact hI.event hstep

omit [DecidableEq ι] [Fintype ι] in
/-- With `lck` free, the occupied slots of `tres` are those from `head` up to `tail`, and
each has the record of the thread that waits for its command. -/
theorem CmdqAsserted.table (h : CmdqAsserted s) (hfree : s.shared.lck = none) {slot : Nat}
    (hslot : slot < s.shared.sq.elCount) :
    (s.shared.tres slot ≠ none ↔ dist s.shared.sq.elCount s.shared.sq.head slot <
      dist s.shared.sq.elCount s.shared.sq.head s.shared.sq.tail) ∧
    ∀ i, s.shared.tres slot = some i → ∃ k, s.shared.submitters[k]? = some i ∧
      k % s.shared.sq.elCount = slot ∧ s.thread i = .waiting k := by
  obtain ⟨b, d, hcredit, haccepted, hlength⟩ := h.shared.credit
  have hround := h.shared.idle hfree
  have hslots := h.shared.slots
  have hempty := h.shared.empty
  have hdone := h.shared.done_length
  rw [hround] at hcredit haccepted hslots hempty hdone
  simp only [CmdqRound.taken, CmdqRound.emptied, CmdqRound.answered, Nat.add_zero]
    at hcredit haccepted hslots hempty hdone
  have hhead := h.shared.head
  have htail : dist s.shared.sq.elCount s.shared.sq.head s.shared.sq.tail = 0 + b + d :=
    hcredit.dist_tail
  have hlt : 0 + b + d < s.shared.sq.elCount := hcredit.occupied_lt
  refine ⟨⟨fun hne => ?_, fun hdist => ?_⟩, fun i hi => ?_⟩
  · obtain ⟨i, hi⟩ := Option.ne_none_iff_exists'.mp hne
    obtain ⟨k, hk, hk', rfl⟩ := hempty slot i hi
    -- the distance from `head` counts the commands since the oldest one
    have hat : dist s.shared.sq.elCount s.shared.sq.head (k % s.shared.sq.elCount) =
        k - s.shared.notified := by
      rw [← advance_mod hk, ← hhead]
      exact dist_advance hcredit.head_lt (by omega)
    omega
  · have hat := advance_dist hcredit.head_lt hslot
    generalize dist s.shared.sq.elCount s.shared.sq.head slot = k at hat hdist
    have hk : (s.shared.notified + k) % s.shared.sq.elCount = slot := by
      rw [← hat, hhead, advance, Nat.mod_add_mod]
    have hin : s.shared.notified + k < s.shared.submitters.length := by omega
    rw [← hk, hslots _ (by omega) hin, List.getElem?_eq_getElem hin]
    exact Option.some_ne_none _
  · obtain ⟨k, hk, hk', rfl⟩ := hempty slot i hi
    have hki : s.shared.submitters[k]? = some i := by
      rw [← hslots k hk hk']
      exact hi
    refine ⟨k, hki, rfl, ?_⟩
    refine CmdqThread.waiting_of_seq? ((h.thread i).own k (by omega) hki) fun hm => ?_
    exact absurd (((h.thread i).lock.mp hm).symm.trans hfree) (Option.some_ne_none _)

omit [DecidableEq ι] [Fintype ι] in
/-- A record in `tres` is that of a thread still in its call, up to the one that the handler
has just completed. -/
theorem CmdqAsserted.in_table (h : CmdqAsserted s) {slot : Nat} {i : ι}
    (hi : s.shared.tres slot = some i) : (∃ k, (s.thread i).seq? = some k) ∨
      slot = s.shared.sq.head ∧ ∃ j, s.thread j = .clearing ∧ s.shared.lck = some j := by
  obtain ⟨k, hk, hk', rfl⟩ := h.shared.empty slot i hi
  have hki : s.shared.submitters[k]? = some i := by
    rw [← h.shared.slots k hk hk']
    exact hi
  have hdone := h.shared.done_length
  obtain hlt | hge := Nat.lt_or_ge k s.shared.done.length
  · right
    have hround : s.shared.round = .completed := by
      cases hround : s.shared.round with
      | completed => rfl
      | idle | consumed | cleared =>
        rw [hround] at hdone hk
        simp only [CmdqRound.answered, CmdqRound.emptied] at hdone hk
        omega
    rw [hround] at hdone hk
    simp only [CmdqRound.answered, CmdqRound.emptied] at hdone hk
    refine ⟨?_, ?_⟩
    · rw [h.shared.head]
      congr 1
      omega
    · obtain ⟨j, hj⟩ : ∃ j, s.shared.lck = some j := by
        refine Option.ne_none_iff_exists'.mp fun hfree => ?_
        exact absurd (hround.symm.trans (h.shared.idle hfree)) nofun
      refine ⟨j, ?_, hj⟩
      have hplace := (h.thread j).round ((h.thread j).lock.mpr hj)
      rw [hround] at hplace
      cases hl : s.thread j with
      | clearing => rfl
      | _ =>
        rw [hl] at hplace
        cases hplace
  · exact .inl ⟨k, (h.thread i).own k hge hki⟩

/-- **Every command gets its own completion.** With `lck` free, `head` is
`completion_cidx`, and `tres` has, in the slots from `head` up to `tail` and in no others,
the records of the threads that wait for the commands of those slots. The records are
completed in the order of the commands, one for each completion of the device; a command
that returns has its own, completed once; and no record of a thread that has returned is
in `tres`, but for the one the handler that holds `lck` is about to clear. -/
theorem cmdq_records (hreach : (cmdqProgram ι).system.Reachable (fun _ _ => True) s) :
    (s.shared.lck = none → s.shared.sq.head = s.shared.sq.completionCidx ∧
      ∀ slot < s.shared.sq.elCount,
        (s.shared.tres slot ≠ none ↔ dist s.shared.sq.elCount s.shared.sq.head slot <
          dist s.shared.sq.elCount s.shared.sq.head s.shared.sq.tail) ∧
        ∀ i, s.shared.tres slot = some i → ∃ k, s.shared.submitters[k]? = some i ∧
          k % s.shared.sq.elCount = slot ∧ s.thread i = .waiting k) ∧
    s.shared.done = s.shared.submitters.take s.shared.done.length ∧
    (s.shared.lck = none → s.shared.done.length +
      dist s.shared.sq.elCount s.shared.sq.head s.shared.sq.completionTail +
        s.shared.cqes.length = s.shared.completions.length) ∧
    (∀ i k status, s.thread i = .returned (some k) status → s.shared.submitters[k]? = some i ∧
      k < s.shared.done.length ∧ (s.shared.el i).cmpl = 0 ∧ status = (s.shared.el i).status ∧
      s.shared.Stored i k) ∧
    ∀ slot i, s.shared.tres slot = some i → (∃ k, (s.thread i).seq? = some k) ∨
      slot = s.shared.sq.head ∧ ∃ j, s.thread j = .clearing ∧ s.shared.lck = some j := by
  have hs := cmdq_asserted hreach
  refine ⟨fun hfree => ⟨?_, fun slot hslot => hs.table hfree hslot⟩, ?_, fun hfree => ?_,
    fun i => (hs.thread i).returned, fun slot i => hs.in_table⟩
  · obtain ⟨hcidx, -, -⟩ := hs.shared.indices
    rw [hs.shared.idle hfree] at hcidx
    exact hs.shared.head.trans hcidx.symm
  · rw [hs.shared.done_length]
    exact hs.shared.done
  · obtain ⟨b, d, hcredit, haccepted, -⟩ := hs.shared.credit
    have hentries := hs.shared.entries
    have hdone := hs.shared.done_length
    rw [hs.shared.idle hfree] at hcredit haccepted hdone
    simp only [CmdqRound.taken, CmdqRound.answered, Nat.add_zero] at hcredit haccepted hdone
    have hctail : dist s.shared.sq.elCount s.shared.sq.head s.shared.sq.completionTail = 0 + b :=
      hcredit.dist_ctail
    omega

end Runs

/-! ## A run -/

/-- Thread one issues a command, the device completes it, and thread two handles that. -/
def cmdqRunOne : List (ThreadAction TwoThreads CmdqChoice CmdqEvent) :=
  [.run .one (.start 5 9 9), .run .one (.sq .next), .run .one .next, .run .one .next,
    .run .one .next, .env (.complete ⟨3, 0, 7⟩), .env .accept, .run .two .handle, .run .two .next,
    .run .two .next, .run .two .next, .run .two .next, .run .two .next, .run .two .next,
    .run .two .next, .run .two .next, .run .two .next, .run .one .next]

def cmdqStateOne : Threads TwoThreads (BceQueueCmdq TwoThreads) (CmdqThread TwoThreads) :=
  (cmdqProgram TwoThreads).system.after (fun _ _ => True) cmdqRunOne
    { shared := bceAllocCmdq TwoThreads 1 0x20, thread := fun _ => .idle }

/-- The command returns the status of its completion. -/
theorem cmdq_records_of_a_command :
    cmdqStateOne.thread .one = .returned (some 0) 3 ∧ cmdqStateOne.shared.Stored .one 0 := by
  have hreach : (cmdqProgram TwoThreads).system.Reachable (fun _ _ => True) cmdqStateOne :=
    .after (.of_init ⟨⟨1, 0x20, by decide, rfl⟩, fun _ => rfl⟩) (by decide +kernel)
  have hreturned : cmdqStateOne.thread .one = .returned (some 0) 3 := by decide +kernel
  obtain ⟨-, -, -, -, hstored⟩ := (cmdq_records hreach).2.2.2.1 .one 0 3 hreturned
  exact ⟨hreturned, hstored⟩

end BceDriver
