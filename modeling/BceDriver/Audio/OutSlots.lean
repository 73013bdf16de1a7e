import BceDriver.Audio.OutQueue

/-!
# A data slot is its sender's until its completion is consumed

- `AaudioOut.Ok`: what holds of the queue. The totals of its ring are those of the
  records, the `k`-th submission is in element `k % 21` and slot `k % 20`, and both
  are as its sender left them until its completion is consumed.
- `AaudioSender.Ok`: what holds of a thread. The one with the spinlock knows which
  slot comes next, and a thread has a reservation from `bce_reserve_submission`
  to `bce_next_submission`.
- `aaudioOut_asserted`: every run keeps them, by the interference rule.
- `aaudio_out_slots`: the result.
-/

namespace BceDriver

open RingIndex

variable {ι : Type} [DecidableEq ι]

/-! ## Places -/

/-- The thread holds the spinlock. -/
def AaudioSender.Holds : AaudioSender → Prop
  | .locked | .writing _ _ | .handed _ _ _ _ | .filled | .rung | .unlocking | .other => True
  | .idle | .reserving _ | .locking => False

/-- The thread has a reservation it has not used. -/
def AaudioSender.Reserved : AaudioSender → Prop
  | .reserving call => call = .returned 0
  | .locking | .locked | .writing _ _ => True
  | .idle | .handed _ _ _ _ | .filled | .rung | .unlocking | .other => False

/-- The data slot the thread has begun to write, until its submission is recorded. -/
def AaudioSender.slot? : AaudioSender → Option Nat
  | .writing slot _ | .handed _ slot _ _ => some slot
  | _ => none

/-- The completions taken whose slot is not given back yet. -/
def AaudioOutHandler.owed : AaudioOutHandler → Nat
  | .took => 1
  | .looping | .counting | .signalling => 0

/-! ## Assertions -/

/-- The `k`-th submission is where it should be. -/
structure AaudioSubmission.At (sub : AaudioSubmission) (dmaAddr k : Nat) : Prop where
  element : sub.element = k % (AAUDIO_BCE_QUEUE_ELEMENT_COUNT + 1)
  slot : sub.slot = k % AAUDIO_BCE_QUEUE_ELEMENT_COUNT
  addr : sub.entry.addr =
    dmaAddr + k % AAUDIO_BCE_QUEUE_ELEMENT_COUNT * AAUDIO_BCE_QUEUE_ELEMENT_SIZE

/-- The device finds the `k`-th submission as its sender made it. -/
structure AaudioOut.Intact (b : AaudioOut ι) (k : Nat) (sub : AaudioSubmission) : Prop where
  entry : b.sq.data (k % (AAUDIO_BCE_QUEUE_ELEMENT_COUNT + 1)) = sub.entry
  message : b.data (k % AAUDIO_BCE_QUEUE_ELEMENT_COUNT) = sub.message

/-- Nobody is in the middle of a submission. -/
structure AaudioOut.Rest (b : AaudioOut ι) : Prop where
  handed : b.handed = b.submissions.length
  dataTail : b.dataTail = b.submissions.length % AAUDIO_BCE_QUEUE_ELEMENT_COUNT

/-- What the totals of the ring are. -/
structure AaudioOut.Totals (b : AaudioOut ι) (k : SqTotals) : Prop where
  counts : SqCounts b.sq (AAUDIO_BCE_QUEUE_ELEMENT_COUNT + 1) k
  submitted : k.submitted = b.handed
  consumed : k.consumed = b.consumed
  held : k.held = b.holders.card
  notified : k.notified + b.handler.owed = k.consumed

/-- What holds of the queue. -/
structure AaudioOut.Ok (b : AaudioOut ι) : Prop where
  totals : ∃ k, b.Totals k
  submitted : ∀ (k : Nat) (sub : AaudioSubmission), b.submissions[k]? = some sub →
    sub.At b.dmaAddr k
  intact : ∀ (k : Nat) (sub : AaudioSubmission), b.submissions[k]? = some sub →
    b.consumed ≤ k → b.Intact k sub
  rest : b.spinlock = none → b.Rest

/-- What the thread with the spinlock knows of the queue. -/
def AaudioSender.Knows (b : AaudioOut ι) : AaudioSender → Prop
  | .locked | .unlocking | .other => b.Rest
  | .writing slot message => b.Rest ∧ slot = b.dataTail ∧ b.data slot = message
  | .handed element slot _ message =>
    b.handed = b.submissions.length + 1 ∧
      b.dataTail = b.submissions.length % AAUDIO_BCE_QUEUE_ELEMENT_COUNT ∧
      element = b.submissions.length % (AAUDIO_BCE_QUEUE_ELEMENT_COUNT + 1) ∧
      slot = b.dataTail ∧ b.data slot = message
  | .filled | .rung => b.handed = b.submissions.length ∧
      ∃ m, b.submissions.length = m + 1 ∧ b.dataTail = m % AAUDIO_BCE_QUEUE_ELEMENT_COUNT
  | .idle | .reserving _ | .locking => True

/-- What holds of a thread. -/
structure AaudioSender.Ok (i : ι) (b : AaudioOut ι) (l : AaudioSender) : Prop where
  holds : l.Holds ↔ b.spinlock = some i
  reserved : l.Reserved ↔ i ∈ b.holders
  knows : l.Knows b

/-- What the other threads have in view is as it was. -/
structure AaudioOut.Elsewhere (i : ι) (b b' : AaudioOut ι) : Prop where
  spinlock : ∀ j, j ≠ i → (b'.spinlock = some j ↔ b.spinlock = some j)
  holders : ∀ j, j ≠ i → (j ∈ b'.holders ↔ j ∈ b.holders)
  sending : ∀ j, j ≠ i → b.spinlock = some j → b'.handed = b.handed ∧
    b'.submissions = b.submissions ∧ b'.dataTail = b.dataTail ∧ b'.data = b.data

omit [DecidableEq ι] in
/-- A thread knows what it knew as long as its part of the queue stays. -/
theorem AaudioSender.Knows.of_eq {b b' : AaudioOut ι} {l : AaudioSender} (h : l.Knows b)
    (hsame : b'.handed = b.handed ∧ b'.submissions = b.submissions ∧
      b'.dataTail = b.dataTail ∧ b'.data = b.data) : l.Knows b' := by
  obtain ⟨hhanded, hsubs, htail, hdata⟩ := hsame
  cases l with
  | idle | reserving | locking => trivial
  | locked | unlocking | other =>
    exact ⟨by rw [hhanded, hsubs]; exact h.handed, by rw [htail, hsubs]; exact h.dataTail⟩
  | writing slot message =>
    obtain ⟨hrest, hslot, hmessage⟩ := h
    exact ⟨⟨by rw [hhanded, hsubs]; exact hrest.handed, by rw [htail, hsubs]; exact hrest.dataTail⟩,
      by rw [htail]; exact hslot, by rw [hdata]; exact hmessage⟩
  | handed element slot size message =>
    obtain ⟨h₁, h₂, h₃, h₄, h₅⟩ := h
    exact ⟨by rw [hhanded, hsubs]; exact h₁, by rw [htail, hsubs]; exact h₂,
      by rw [hsubs]; exact h₃, by rw [htail]; exact h₄, by rw [hdata]; exact h₅⟩
  | filled | rung =>
    obtain ⟨h₁, m, h₂, h₃⟩ := h
    exact ⟨by rw [hhanded, hsubs]; exact h₁, m, by rw [hsubs]; exact h₂, by rw [htail]; exact h₃⟩

omit [DecidableEq ι] in
/-- A thread without the lock knows nothing that could change. -/
theorem AaudioSender.knows_of_not_holds {l : AaudioSender} (h : ¬l.Holds) (b : AaudioOut ι) :
    l.Knows b := by
  cases l with
  | idle | reserving | locking => trivial
  | locked | writing | handed | filled | rung | unlocking | other => exact absurd trivial h

omit [DecidableEq ι] in
theorem AaudioSender.Ok.elsewhere {i j : ι} {b b' : AaudioOut ι} {l : AaudioSender}
    (h : l.Ok j b) (hb : b.Elsewhere i b') (hj : j ≠ i) : l.Ok j b' where
  holds := h.holds.trans (hb.spinlock j hj).symm
  reserved := h.reserved.trans (hb.holders j hj).symm
  knows := by
    by_cases hl : l.Holds
    · exact h.knows.of_eq (hb.sending j hj (h.holds.mp hl))
    · exact AaudioSender.knows_of_not_holds hl b'

omit [DecidableEq ι] in
/-- While a thread has the lock or the lock is free, no other thread sends. -/
theorem AaudioOut.Elsewhere.of_lock {i : ι} {b b' : AaudioOut ι}
    (hlock : b.spinlock = none ∨ b.spinlock = some i)
    (hlock' : b'.spinlock = none ∨ b'.spinlock = some i)
    (hholders : ∀ j, j ≠ i → (j ∈ b'.holders ↔ j ∈ b.holders)) : b.Elsewhere i b' := by
  have hother : ∀ (c : AaudioOut ι), c.spinlock = none ∨ c.spinlock = some i →
      ∀ j, j ≠ i → c.spinlock ≠ some j := by
    rintro c (hc | hc) j hj heq
    · rw [hc] at heq
      cases heq
    · rw [hc] at heq
      exact hj (Option.some.inj heq).symm
  exact ⟨fun j hj => iff_of_false (hother b' hlock' j hj) (hother b hlock j hj), hholders,
    fun j hj heq => absurd heq (hother b hlock j hj)⟩

/-! ## Free slots -/

omit [DecidableEq ι] in
/-- With credit left for it, the next element and the next data slot are none of the
submissions whose completion is not consumed. -/
theorem AaudioOut.Ok.slot_ne {b : AaudioOut ι} (h : b.Ok)
    (hroom : b.submissions.length + 1 ≤ b.handed + b.holders.card) {k : Nat}
    (hk : b.consumed ≤ k) (hlt : k < b.submissions.length) :
    k % AAUDIO_BCE_QUEUE_ELEMENT_COUNT ≠
        b.submissions.length % AAUDIO_BCE_QUEUE_ELEMENT_COUNT ∧
      k % (AAUDIO_BCE_QUEUE_ELEMENT_COUNT + 1) ≠
        b.submissions.length % (AAUDIO_BCE_QUEUE_ELEMENT_COUNT + 1) := by
  obtain ⟨t, ht⟩ := h.totals
  have hwindow := ht.counts.window
  have hnotified := ht.counts.notified_le
  rw [ht.submitted, ht.held] at hwindow
  rw [ht.consumed] at hnotified
  constructor
  · intro heq
    have := eq_of_mod_eq heq (Nat.le_trans hnotified hk) (by omega) (by omega) (by omega)
    omega
  · intro heq
    have := eq_of_mod_eq heq (Nat.le_trans hnotified hk) (by omega) (by omega) (by omega)
    omega

/-! ## A step of a sender -/

section Step

variable {i : ι} {b b' : AaudioOut ι} {l l' : AaudioSender}

omit [DecidableEq ι] in
/-- What is submitted and written is as it was. -/
theorem AaudioOut.Ok.update (h : b.Ok) (htotals : ∃ k, b'.Totals k)
    (hsubs : b'.submissions = b.submissions) (hdma : b'.dmaAddr = b.dmaAddr)
    (hconsumed : b.consumed ≤ b'.consumed) (hring : b'.sq.data = b.sq.data)
    (hdata : b'.data = b.data) (hrest : b'.spinlock = none → b'.Rest) : b'.Ok where
  totals := htotals
  submitted k sub hsub := by
    rw [hdma]
    exact h.submitted k sub (hsubs ▸ hsub)
  intact k sub hsub hk := by
    have hwas := h.intact k sub (hsubs ▸ hsub) (Nat.le_trans hconsumed hk)
    exact ⟨by rw [hring]; exact hwas.entry, by rw [hdata]; exact hwas.message⟩
  rest := hrest

/-- Inside `bce_reserve_submission` a thread takes a slot, or leaves the totals. -/
theorem sqCallerStep_indices {c : SqChoice} {call call' : SqCaller} {sq sq' : BceQueueSq}
    (hstep : sqCallerStep c call sq = some (call', sq')) :
    sq'.data = sq.data ∧
      (call ≠ .returned 0 ∧ call' = .returned 0 ∧ 0 < sq.availableCommands ∧
          sq' = { sq with availableCommands := sq.availableCommands - 1 } ∨
        call ≠ .returned 0 ∧ call' ≠ .returned 0 ∧ SameIndices sq sq') := by
  have hbusy : ¬call.Free := by
    intro hfree
    cases call with
    | idle | returned => cases c <;> cases hstep
    | _ => exact hfree
  have hcall : call ≠ .returned 0 := by
    rintro rfl
    exact hbusy trivial
  cases sqCallerStep_spec hstep with
  | called hfree | cancelled hfree | returned hfree => exact absurd hfree hbusy
  | took hpos => exact ⟨rfl, .inl ⟨hcall, rfl, hpos, rfl⟩⟩
  | gaveUp =>
    refine ⟨rfl, .inr ⟨hcall, ?_, rfl, rfl, rfl, rfl, rfl, rfl, rfl⟩⟩
    decide
  | refused | registered | woken | timedOut | tookBack | claimed | absorbed | nobody | claims
  | signalled =>
    refine ⟨rfl, .inr ⟨hcall, ?_, rfl, rfl, rfl, rfl, rfl, rfl, rfl⟩⟩
    rintro ⟨⟩

/-- What a step of thread `i` has to leave. -/
structure AaudioStepOk (i : ι) (b b' : AaudioOut ι) (l' : AaudioSender) : Prop where
  queue : b'.Ok
  thread : l'.Ok i b'
  elsewhere : b.Elsewhere i b'

omit [DecidableEq ι] in
/-- A step that only moves the thread, between two places without the lock. -/
theorem AaudioStepOk.moved (hb : b.Ok) (hl : l.Ok i b) (hfree : ¬l.Holds) (hfree' : ¬l'.Holds)
    (hreserved : l'.Reserved ↔ l.Reserved) : AaudioStepOk i b b l' where
  queue := hb
  thread := {
    holds := iff_of_false hfree' fun h => hfree (hl.holds.mpr h)
    reserved := hreserved.trans hl.reserved
    knows := AaudioSender.knows_of_not_holds hfree' b }
  elsewhere := ⟨fun _ _ => Iff.rfl, fun _ _ => Iff.rfl, fun _ _ _ => ⟨rfl, rfl, rfl, rfl⟩⟩

theorem AaudioStepOk.reserving {c : SqChoice} {call call' : SqCaller} {sq' : BceQueueSq}
    (hb : b.Ok) (hl : (AaudioSender.reserving call).Ok i b)
    (hstep : sqCallerStep c call b.sq = some (call', sq')) :
    AaudioStepOk i b { b with
      sq := sq'
      holders := if call' = .returned 0 then insert i b.holders else b.holders }
      (.reserving call') := by
  obtain ⟨t, ht⟩ := hb.totals
  have hlock : ¬b.spinlock = some i := hl.holds.mpr
  have hrest : ∀ holders, b.spinlock = none →
      AaudioOut.Rest { b with sq := sq', holders := holders } :=
    fun _ hfree => ⟨(hb.rest hfree).handed, (hb.rest hfree).dataTail⟩
  obtain ⟨hring, ⟨hcall, rfl, hpos, rfl⟩ | ⟨hcall, hcall', hsame⟩⟩ := sqCallerStep_indices hstep
  · -- it took a slot, and is a holder from now on
    have hnew : i ∉ b.holders := fun hmem => hcall (hl.reserved.mpr hmem)
    rw [if_pos rfl]
    refine ⟨hb.update ⟨_, ht.counts.reserve hpos, ht.submitted, ht.consumed, ?_, ht.notified⟩
      rfl rfl (Nat.le_refl _) hring rfl (hrest _),
      ⟨iff_of_false id hlock, iff_of_true rfl (Finset.mem_insert_self i b.holders), trivial⟩,
      fun _ _ => Iff.rfl, fun j hj => ?_, fun _ _ _ => ⟨rfl, rfl, rfl, rfl⟩⟩
    · show t.held + 1 = (insert i b.holders).card
      rw [Finset.card_insert_of_notMem hnew, ht.held]
    · show j ∈ insert i b.holders ↔ j ∈ b.holders
      simp [hj]
  · rw [if_neg hcall']
    have hout : i ∉ b.holders := fun hmem => hcall (hl.reserved.mpr hmem)
    exact ⟨hb.update ⟨t, ht.counts.of_same hsame, ht.submitted, ht.consumed, ht.held, ht.notified⟩
      rfl rfl (Nat.le_refl _) hring rfl (hrest _),
      ⟨iff_of_false id hlock, iff_of_false hcall' hout, trivial⟩,
      fun _ _ => Iff.rfl, fun _ _ => Iff.rfl, fun _ _ _ => ⟨rfl, rfl, rfl, rfl⟩⟩

omit [DecidableEq ι] in
/-- The thread takes the free lock, and finds nobody in the middle of a submission. -/
theorem AaudioStepOk.locked (hb : b.Ok) (hl : l.Ok i b) (hfree : b.spinlock = none)
    (hholds : l'.Holds) (hknows : ∀ c : AaudioOut ι, c.Rest → l'.Knows c)
    (hreserved : l'.Reserved ↔ l.Reserved) :
    AaudioStepOk i b { b with spinlock := some i } l' := by
  obtain ⟨t, ht⟩ := hb.totals
  have hrest := hb.rest hfree
  exact ⟨hb.update ⟨t, ht.counts, ht.submitted, ht.consumed, ht.held, ht.notified⟩ rfl rfl
      (Nat.le_refl _) rfl rfl (fun h => nomatch h),
    ⟨iff_of_true hholds rfl, hreserved.trans hl.reserved, hknows _ ⟨hrest.handed, hrest.dataTail⟩⟩,
    .of_lock (.inl hfree) (.inr rfl) fun _ _ => Iff.rfl⟩

omit [DecidableEq ι] in
/-- The thread leaves the lock with nothing half done. -/
theorem AaudioStepOk.unlocked (hb : b.Ok) (hl : l.Ok i b) (hholds : l.Holds) (hrest : b.Rest)
    (hreserved : ¬l.Reserved) : AaudioStepOk i b { b with spinlock := none } .idle := by
  obtain ⟨t, ht⟩ := hb.totals
  exact ⟨hb.update ⟨t, ht.counts, ht.submitted, ht.consumed, ht.held, ht.notified⟩ rfl rfl
      (Nat.le_refl _) rfl rfl fun _ => ⟨hrest.handed, hrest.dataTail⟩,
    ⟨iff_of_false id (fun h => nomatch h), iff_of_false id fun h => hreserved (hl.reserved.mpr h),
      trivial⟩,
    .of_lock (.inr (hl.holds.mp hholds)) (.inl rfl) fun _ _ => Iff.rfl⟩

omit [DecidableEq ι] in
/-- A thread with a reservation and the lock finds the next slot free. -/
theorem AaudioOut.Ok.room (hrest : b.Rest) (hmem : i ∈ b.holders) :
    b.submissions.length + 1 ≤ b.handed + b.holders.card := by
  have hcard : 0 < b.holders.card := Finset.card_pos.mpr ⟨i, hmem⟩
  have hhanded := hrest.handed
  omega

omit [DecidableEq ι] in
/-- A write goes to a slot no pending submission is in. -/
theorem AaudioStepOk.write {slot : Nat} {message message' : List UInt8} (hb : b.Ok)
    (hl : (AaudioSender.writing slot message).Ok i b) :
    AaudioStepOk i b { b with data := Function.update b.data slot message' }
      (.writing slot message') := by
  obtain ⟨t, ht⟩ := hb.totals
  obtain ⟨hrest, hslot, -⟩ := hl.knows
  have hlock : b.spinlock = some i := hl.holds.mp trivial
  have hroom := AaudioOut.Ok.room hrest (hl.reserved.mp trivial)
  refine ⟨⟨⟨t, ht.counts, ht.submitted, ht.consumed, ht.held, ht.notified⟩, hb.submitted,
      fun k sub hsub hk => ?_, fun hfree => ?_⟩,
    ⟨iff_of_true trivial hlock, iff_of_true trivial (hl.reserved.mp trivial),
      ⟨hrest.handed, hrest.dataTail⟩, hslot, Function.update_self slot message' b.data⟩,
    .of_lock (.inr hlock) (.inr hlock) fun _ _ => Iff.rfl⟩
  · obtain ⟨hlt, -⟩ := List.getElem?_eq_some_iff.mp hsub
    have hne := (hb.slot_ne hroom hk hlt).1
    rw [← hrest.dataTail, ← hslot] at hne
    have hwas := hb.intact k sub hsub hk
    exact ⟨hwas.entry, (Function.update_of_ne hne message' b.data).trans hwas.message⟩
  · exact absurd (hlock.symm.trans hfree) (by simp)

/-- The reservation becomes the next element. -/
theorem AaudioStepOk.handOut {slot size : Nat} {message : List UInt8} (hb : b.Ok)
    (hl : (AaudioSender.writing slot message).Ok i b) :
    AaudioStepOk i b (aaudioHandOut i b)
      (.handed (bceNextSubmission b.sq).1 slot size message) := by
  obtain ⟨t, ht⟩ := hb.totals
  obtain ⟨hrest, hslot, hmessage⟩ := hl.knows
  have hlock : b.spinlock = some i := hl.holds.mp trivial
  have hmem : i ∈ b.holders := hl.reserved.mp trivial
  have hheld : 0 < t.held := by
    rw [ht.held]
    exact Finset.card_pos.mpr ⟨i, hmem⟩
  have htail : b.sq.tail = b.submissions.length % (AAUDIO_BCE_QUEUE_ELEMENT_COUNT + 1) := by
    rw [ht.counts.tail, ht.submitted, hrest.handed]
  refine ⟨hb.update ⟨_, ht.counts.next hheld, ?_, ht.consumed, ?_, ht.notified⟩ rfl rfl
      (Nat.le_refl _) rfl rfl fun hfree => absurd (hlock.symm.trans hfree) (by simp),
    ⟨iff_of_true trivial hlock, iff_of_false id (Finset.notMem_erase i b.holders),
      congrArg (· + 1) hrest.handed, hrest.dataTail, htail, hslot, hmessage⟩,
    .of_lock (.inr hlock) (.inr hlock) fun j hj => ?_⟩
  · exact congrArg (· + 1) ht.submitted
  · show t.held - 1 = (b.holders.erase i).card
    rw [Finset.card_erase_of_mem hmem, ht.held]
  · show j ∈ b.holders.erase i ↔ j ∈ b.holders
    simp [hj]

omit [DecidableEq ι] in
/-- The element is filled in: it is the next of the submissions. -/
theorem AaudioStepOk.fill {element slot size : Nat} {message : List UInt8} (hb : b.Ok)
    (hl : (AaudioSender.handed element slot size message).Ok i b) :
    AaudioStepOk i b (aaudioFill element slot size message b) .filled := by
  obtain ⟨t, ht⟩ := hb.totals
  obtain ⟨hhanded, htail, helement, hslot, hmessage⟩ := hl.knows
  have hlock : b.spinlock = some i := hl.holds.mp trivial
  have hroom : b.submissions.length + 1 ≤ b.handed + b.holders.card := by omega
  have hnot : i ∉ b.holders := fun h => hl.reserved.mpr h
  have hentry : (aaudioFill element slot size message b).sq.data element =
      ⟨size, b.dmaAddr + slot * AAUDIO_BCE_QUEUE_ELEMENT_SIZE, 0, 0⟩ :=
    Function.update_self element _ b.sq.data
  have hlast : ∀ (k : Nat) (sub : AaudioSubmission),
      (aaudioFill element slot size message b).submissions[k]? = some sub →
      b.submissions[k]? = some sub ∨ k = b.submissions.length ∧
        sub = ⟨element, ⟨size, b.dmaAddr + slot * AAUDIO_BCE_QUEUE_ELEMENT_SIZE, 0, 0⟩,
          slot, message⟩ := by
    intro k sub hsub
    rw [← hentry]
    exact getElem?_concat hsub
  refine ⟨⟨⟨t, ht.counts.of_same ⟨rfl, rfl, rfl, rfl, rfl, rfl, rfl⟩, ht.submitted, ht.consumed,
      ht.held, ht.notified⟩, fun k sub hsub => ?_, fun k sub hsub hk => ?_, fun hfree => ?_⟩,
    ⟨iff_of_true trivial hlock, iff_of_false id hnot, ?_, b.submissions.length, ?_, htail⟩,
    .of_lock (.inr hlock) (.inr hlock) fun _ _ => Iff.rfl⟩
  · obtain hold | ⟨rfl, rfl⟩ := hlast k sub hsub
    · exact hb.submitted k sub hold
    · exact ⟨helement, hslot.trans htail, by rw [hslot, htail]; rfl⟩
  · obtain hold | ⟨rfl, rfl⟩ := hlast k sub hsub
    · -- an earlier one that is pending is in another element
      obtain ⟨hlt, -⟩ := List.getElem?_eq_some_iff.mp hold
      have hne := (hb.slot_ne hroom hk hlt).2
      rw [← helement] at hne
      have hwas := hb.intact k sub hold hk
      exact ⟨(Function.update_of_ne hne _ b.sq.data).trans hwas.entry, hwas.message⟩
    · exact ⟨by rw [← helement]; exact hentry, by rw [← htail, ← hslot]; exact hmessage⟩
  · exact absurd (hlock.symm.trans hfree) (by simp)
  · exact hhanded.trans (by simp [aaudioFill])
  · simp [aaudioFill]

omit [DecidableEq ι] in
theorem AaudioStepOk.ring (hb : b.Ok) (hl : AaudioSender.filled.Ok i b) :
    AaudioStepOk i b { b with sq := bceSubmitToDevice b.sq } .rung := by
  obtain ⟨t, ht⟩ := hb.totals
  have hlock : b.spinlock = some i := hl.holds.mp trivial
  exact ⟨hb.update ⟨_, ht.counts.submit, ht.submitted, ht.consumed, ht.held, ht.notified⟩ rfl rfl
      (Nat.le_refl _) rfl rfl fun hfree => absurd (hlock.symm.trans hfree) (by simp),
    ⟨iff_of_true trivial hlock, iff_of_false id hl.reserved.mpr, hl.knows⟩,
    .of_lock (.inr hlock) (.inr hlock) fun _ _ => Iff.rfl⟩

omit [DecidableEq ι] in
/-- `data_tail` moves on to the slot of the next submission. -/
theorem AaudioStepOk.advance (hb : b.Ok) (hl : AaudioSender.rung.Ok i b) :
    AaudioStepOk i b
      { b with dataTail := (b.dataTail + 1) % AAUDIO_BCE_QUEUE_ELEMENT_COUNT } .unlocking := by
  obtain ⟨t, ht⟩ := hb.totals
  obtain ⟨hhanded, m, hlen, htail⟩ := hl.knows
  have hlock : b.spinlock = some i := hl.holds.mp trivial
  have hnext : (b.dataTail + 1) % AAUDIO_BCE_QUEUE_ELEMENT_COUNT =
      b.submissions.length % AAUDIO_BCE_QUEUE_ELEMENT_COUNT := by
    rw [htail, hlen, Nat.mod_add_mod]
  exact ⟨hb.update ⟨t, ht.counts, ht.submitted, ht.consumed, ht.held, ht.notified⟩ rfl rfl
      (Nat.le_refl _) rfl rfl fun _ => ⟨hhanded, hnext⟩,
    ⟨iff_of_true trivial hlock, iff_of_false id hl.reserved.mpr, hhanded, hnext⟩,
    .of_lock (.inr hlock) (.inr hlock) fun _ _ => Iff.rfl⟩

/-- What a step of a sender does. -/
inductive AaudioSenderStep (i : ι) (b : AaudioOut ι) :
    AaudioSender → AaudioSender → AaudioOut ι → Prop
  | calls (timeout : Nat) : AaudioSenderStep i b .idle (.reserving (.trying timeout)) b
  | reserves {c : SqChoice} {call call' : SqCaller} {sq' : BceQueueSq}
      (hcall : sqCallerStep c call b.sq = some (call', sq')) :
      AaudioSenderStep i b (.reserving call) (.reserving call') { b with
        sq := sq'
        holders := if call' = .returned 0 then insert i b.holders else b.holders }
  | reserved : AaudioSenderStep i b (.reserving (.returned 0)) .locking b
  | refused {status : Int} (hstatus : status ≠ 0) :
      AaudioSenderStep i b (.reserving (.returned status)) .idle b
  | locks (hfree : b.spinlock = none) :
      AaudioSenderStep i b .locking .locked { b with spinlock := some i }
  | begins : AaudioSenderStep i b .locked (.writing b.dataTail (b.data b.dataTail)) b
  | writes (slot : Nat) (message message' : List UInt8) :
      AaudioSenderStep i b (.writing slot message) (.writing slot message')
        { b with data := Function.update b.data slot message' }
  | submits (slot size : Nat) (message : List UInt8) :
      AaudioSenderStep i b (.writing slot message)
        (.handed (bceNextSubmission b.sq).1 slot size message) (aaudioHandOut i b)
  | fills (element slot size : Nat) (message : List UInt8) :
      AaudioSenderStep i b (.handed element slot size message) .filled
        (aaudioFill element slot size message b)
  | rings : AaudioSenderStep i b .filled .rung { b with sq := bceSubmitToDevice b.sq }
  | advances : AaudioSenderStep i b .rung .unlocking
      { b with dataTail := (b.dataTail + 1) % AAUDIO_BCE_QUEUE_ELEMENT_COUNT }
  | unlocks : AaudioSenderStep i b .unlocking .idle { b with spinlock := none }
  | lockedElsewhere (hfree : b.spinlock = none) :
      AaudioSenderStep i b .idle .other { b with spinlock := some i }
  | unlockedElsewhere : AaudioSenderStep i b .other .idle { b with spinlock := none }

theorem aaudioSenderRun_spec {c : AaudioSenderChoice}
    (hrun : aaudioSenderRun i c l b = some (l', b')) : AaudioSenderStep i b l l' b' := by
  cases l with
  | idle =>
    cases c with
    | send timeout =>
      cases hrun
      exact .calls timeout
    | lock =>
      obtain ⟨hfree, heq⟩ := Option.ite_none_right_eq_some.mp hrun
      cases heq
      exact .lockedElsewhere hfree
    | _ => cases hrun
  | reserving call =>
    cases c with
    | reserve c =>
      obtain ⟨⟨call', sq'⟩, hcall, heq⟩ := Option.map_eq_some_iff.mp hrun
      cases heq
      exact .reserves hcall
    | next =>
      cases call with
      | returned status =>
        cases hrun
        by_cases hstatus : status = 0
        · rw [if_pos hstatus, hstatus]
          exact .reserved
        · rw [if_neg hstatus]
          exact .refused hstatus
      | _ => cases hrun
    | _ => cases hrun
  | locking =>
    cases c with
    | next =>
      obtain ⟨hfree, heq⟩ := Option.ite_none_right_eq_some.mp hrun
      cases heq
      exact .locks hfree
    | _ => cases hrun
  | locked =>
    cases c with
    | next =>
      cases hrun
      exact .begins
    | _ => cases hrun
  | writing slot message =>
    cases c with
    | write message' =>
      cases hrun
      exact .writes slot message message'
    | submit size =>
      cases hrun
      exact .submits slot size message
    | _ => cases hrun
  | handed element slot size message =>
    cases c with
    | next =>
      cases hrun
      exact .fills element slot size message
    | _ => cases hrun
  | filled =>
    cases c with
    | next =>
      cases hrun
      exact .rings
    | _ => cases hrun
  | rung =>
    cases c with
    | next =>
      cases hrun
      exact .advances
    | _ => cases hrun
  | unlocking =>
    cases c with
    | next =>
      cases hrun
      exact .unlocks
    | _ => cases hrun
  | other =>
    cases c with
    | next =>
      cases hrun
      exact .unlockedElsewhere
    | _ => cases hrun

/-- A step of a sender keeps what holds of the queue, of itself and of the others. -/
theorem AaudioSenderStep.ok (hb : b.Ok) (hl : l.Ok i b) (hstep : AaudioSenderStep i b l l' b') :
    AaudioStepOk i b b' l' := by
  cases hstep with
  | calls => exact .moved hb hl id id (iff_of_false (fun h => nomatch h) id)
  | reserves hcall => exact .reserving hb hl hcall
  | reserved => exact .moved hb hl id id (iff_of_true trivial rfl)
  | refused hstatus =>
    exact .moved hb hl id id (iff_of_false id fun h => hstatus (SqCaller.returned.inj h))
  | locks hfree => exact .locked hb hl hfree trivial (fun _ h => h) Iff.rfl
  | begins =>
    have hlock := hl.holds.mp trivial
    exact ⟨hb, ⟨iff_of_true trivial hlock, iff_of_true trivial (hl.reserved.mp trivial), hl.knows,
      rfl, rfl⟩, .of_lock (.inr hlock) (.inr hlock) fun _ _ => Iff.rfl⟩
  | writes => exact .write hb hl
  | submits => exact .handOut hb hl
  | fills => exact .fill hb hl
  | rings => exact .ring hb hl
  | advances => exact .advance hb hl
  | lockedElsewhere hfree => exact .locked hb hl hfree trivial (fun _ h => h) Iff.rfl
  | unlocks | unlockedElsewhere => exact .unlocked hb hl trivial hl.knows id

/-- Only a sender writes to the data slots, and to the one it has. -/
theorem AaudioSenderStep.data {d : Nat} (hstep : AaudioSenderStep i b l l' b')
    (hne : b'.data d ≠ b.data d) : l.slot? = some d := by
  cases hstep with
  | writes slot message message' =>
    -- the only write of a sender is to the slot it took from `data_tail`
    by_cases hd : d = slot
    · rw [hd]
      rfl
    · exact absurd (Function.update_of_ne hd message' b.data) hne
  | _ => exact absurd rfl hne

end Step

/-! ## A step of the device or of the completion handler -/

section Env

variable {b b' : AaudioOut ι}

/-- What the completion handler and the device leave alone. -/
structure AaudioOut.SameSending (b b' : AaudioOut ι) : Prop where
  data : b'.data = b.data
  dmaAddr : b'.dmaAddr = b.dmaAddr
  dataTail : b'.dataTail = b.dataTail
  spinlock : b'.spinlock = b.spinlock
  submissions : b'.submissions = b.submissions
  handed : b'.handed = b.handed
  holders : b'.holders = b.holders
  ring : b'.sq.data = b.sq.data

omit [DecidableEq ι]

/-- A step of the completion handler takes a completion, gives a slot back, or looks
for a waiter. -/
theorem aaudioBceOutQueueCompletion_spec {t : SqTotals} (ht : b.Totals t)
    (hstep : aaudioBceOutQueueCompletion b = some b') :
    b.SameSending b' ∧ b.consumed ≤ b'.consumed ∧ ∃ k, b'.Totals k := by
  have hnotified := ht.notified
  unfold aaudioBceOutQueueCompletion at hstep
  split at hstep
  · next hhandler =>
    rw [hhandler] at hnotified
    split at hstep
    · cases hstep
      exact ⟨⟨rfl, rfl, rfl, rfl, rfl, rfl, rfl, rfl⟩, Nat.le_refl _, t, ht⟩
    · next d sq hnext =>
      cases hstep
      obtain ⟨-, -, hsq, hcounts⟩ := ht.counts.consume hnext
      exact ⟨⟨rfl, rfl, rfl, rfl, rfl, rfl, rfl, by rw [hsq]⟩, Nat.le_succ _, _, hcounts,
        ht.submitted, congrArg (· + 1) ht.consumed, ht.held, congrArg (· + 1) hnotified⟩
  · next hhandler =>
    rw [hhandler] at hnotified
    cases hstep
    exact ⟨⟨rfl, rfl, rfl, rfl, rfl, rfl, rfl, rfl⟩, Nat.le_refl _, _,
      ht.counts.release (Nat.lt_of_succ_le (Nat.le_of_eq hnotified)), ht.submitted, ht.consumed,
      ht.held, hnotified⟩
  · next hhandler =>
    rw [hhandler] at hnotified
    obtain ⟨⟨call, sq⟩, hcall, heq⟩ := Option.map_eq_some_iff.mp hstep
    cases heq
    cases hcall
    refine ⟨⟨rfl, rfl, rfl, rfl, rfl, rfl, rfl, rfl⟩, Nat.le_refl _, t,
      ht.counts.of_same ⟨rfl, rfl, rfl, rfl, rfl, rfl, rfl⟩, ht.submitted, ht.consumed, ht.held, ?_⟩
    show t.notified + AaudioOutHandler.owed (if _ then _ else _) = t.consumed
    split
    · exact hnotified
    · exact hnotified
  · next hhandler =>
    rw [hhandler] at hnotified
    cases hstep
    exact ⟨⟨rfl, rfl, rfl, rfl, rfl, rfl, rfl, rfl⟩, Nat.le_refl _, t,
      ht.counts.of_same ⟨rfl, rfl, rfl, rfl, rfl, rfl, rfl⟩, ht.submitted, ht.consumed, ht.held,
      hnotified⟩

theorem aaudioOutEnv_spec {t : SqTotals} {e : AaudioOutEvent} (ht : b.Totals t)
    (hstep : aaudioOutEnv e b = some b') :
    b.SameSending b' ∧ b.consumed ≤ b'.consumed ∧ ∃ k, b'.Totals k := by
  cases e with
  | complete e =>
    obtain ⟨⟨hne, -⟩, heq⟩ := Option.ite_none_right_eq_some.mp hstep
    cases heq
    exact ⟨⟨rfl, rfl, rfl, rfl, rfl, rfl, rfl, rfl⟩, Nat.le_refl _, _,
      ht.counts.store (ht.counts.completed_lt hne) e, ht.submitted, ht.consumed, ht.held,
      ht.notified⟩
  | handler => exact aaudioBceOutQueueCompletion_spec ht hstep

theorem AaudioOut.Rest.of_same (h : b.Rest) (hsame : b.SameSending b') : b'.Rest :=
  ⟨by rw [hsame.handed, hsame.submissions]; exact h.handed,
    by rw [hsame.dataTail, hsame.submissions]; exact h.dataTail⟩

/-- What holds of the queue and of each thread stays. -/
theorem aaudioOutEnv_ok {e : AaudioOutEvent} (hb : b.Ok) (hstep : aaudioOutEnv e b = some b') :
    b'.Ok ∧ ∀ i (l : AaudioSender), l.Ok i b → l.Ok i b' := by
  obtain ⟨t, ht⟩ := hb.totals
  obtain ⟨hsame, hconsumed, htotals⟩ := aaudioOutEnv_spec ht hstep
  refine ⟨hb.update htotals hsame.submissions hsame.dmaAddr hconsumed hsame.ring hsame.data
    fun hfree => (hb.rest (hsame.spinlock ▸ hfree)).of_same hsame, fun i l hl => ?_⟩
  exact ⟨by rw [hsame.spinlock]; exact hl.holds, by rw [hsame.holders]; exact hl.reserved,
    hl.knows.of_eq ⟨hsame.handed, hsame.submissions, hsame.dataTail, hsame.data⟩⟩

end Env

/-! ## Every run -/

omit [DecidableEq ι] in
theorem aaudioOut_init (qid dmaAddr : Nat) : (aaudioOutInit ι qid dmaAddr).Ok ∧
    ∀ i, AaudioSender.idle.Ok i (aaudioOutInit ι qid dmaAddr) := by
  refine ⟨⟨⟨_, .init (Nat.succ_pos _), rfl, rfl, rfl, rfl⟩, fun k sub h => ?_, fun k sub h => ?_,
    fun _ => ⟨rfl, rfl⟩⟩, fun i => ⟨iff_of_false id (fun h => nomatch h),
      iff_of_false id (Finset.notMem_empty i), trivial⟩⟩
  · cases h
  · cases h

theorem aaudioOut_asserted {s : Threads ι (AaudioOut ι) AaudioSender}
    (h : (aaudioOutProgram ι).system.Reachable (fun _ _ => True) s) :
    ThreadProgram.Asserted AaudioOut.Ok AaudioSender.Ok (fun _ _ _ _ => True) s := by
  refine ThreadProgram.invariant ?_ ?_ ?_ h
  · rintro b ⟨qid, dmaAddr, rfl⟩
    obtain ⟨hb, hl⟩ := aaudioOut_init (ι := ι) qid dmaAddr
    exact ⟨hb, hl, fun _ _ => trivial⟩
  · intro s i c l b _ hinv _ hrun
    have hstep := (aaudioSenderRun_spec hrun).ok hinv.shared (hinv.thread i)
    exact ⟨hstep.queue, hstep.thread, fun j hj =>
      ⟨(hinv.thread j).elsewhere hstep.elsewhere hj, trivial, trivial⟩⟩
  · intro s e b _ hinv _ hstep
    obtain ⟨hb, hl⟩ := aaudioOutEnv_ok hinv.shared hstep
    exact ⟨hb, fun i => hl i _ (hinv.thread i)⟩

/-! ## The result -/

/-- The slots of the out queue, in one state of a run. -/
structure AaudioOutSlots (s : Threads ι (AaudioOut ι) AaudioSender) : Prop where
  /-- the `k`-th submission has element `k % 21` and the address of slot `k % 20`,
  where its sender wrote -/
  submitted : ∀ (k : Nat) (sub : AaudioSubmission), s.shared.submissions[k]? = some sub →
    sub.At s.shared.dmaAddr k
  /-- and until its completion is consumed both are as its sender left them -/
  intact : ∀ (k : Nat) (sub : AaudioSubmission), s.shared.submissions[k]? = some sub →
    s.shared.consumed ≤ k → s.shared.Intact k sub
  /-- the slot a sender has begun to write is no other sender's, and that of no
  submission whose completion is not consumed -/
  exclusive : ∀ i slot, (s.thread i).slot? = some slot →
    (∀ j, j ≠ i → (s.thread j).slot? = none) ∧
    ∀ (k : Nat) (sub : AaudioSubmission), s.shared.submissions[k]? = some sub →
      s.shared.consumed ≤ k → sub.slot ≠ slot

omit [DecidableEq ι] in
theorem AaudioSender.holds_of_slot {l : AaudioSender} {slot : Nat} (h : l.slot? = some slot) :
    l.Holds := by
  cases l with
  | writing | handed => trivial
  | _ => cases h

omit [DecidableEq ι] in
/-- The slot a sender has begun to write is the next one, and there is room for it. -/
theorem AaudioSender.Ok.slot {i : ι} {b : AaudioOut ι} {l : AaudioSender} {slot : Nat}
    (h : l.Ok i b) (hslot : l.slot? = some slot) :
    slot = b.submissions.length % AAUDIO_BCE_QUEUE_ELEMENT_COUNT ∧
      b.submissions.length + 1 ≤ b.handed + b.holders.card := by
  cases l with
  | writing slot message =>
    cases hslot
    obtain ⟨hrest, hat, -⟩ := h.knows
    exact ⟨hat.trans hrest.dataTail, AaudioOut.Ok.room hrest (h.reserved.mp trivial)⟩
  | handed element slot size message =>
    cases hslot
    obtain ⟨hhanded, htail, -, hat, -⟩ := h.knows
    exact ⟨hat.trans htail, by omega⟩
  | _ => cases hslot

/-- **The slots of the out queue.** Whatever the senders, their reservations, the
completion handler and the device do: the `k`-th submission is in element `k % 21` and
carries the address of data slot `k % 20`, the one its sender wrote; and only the
sender that has a slot writes to it, from its first write until the completion of its
submission is consumed. -/
theorem aaudio_out_slots {s : Threads ι (AaudioOut ι) AaudioSender}
    (h : (aaudioOutProgram ι).system.Reachable (fun _ _ => True) s) :
    AaudioOutSlots s ∧ ∀ a s' d, (aaudioOutProgram ι).system.step a s = some s' →
      s'.shared.data d ≠ s.shared.data d →
      ∃ i c, a = .run i c ∧ (s.thread i).slot? = some d := by
  have hinv := aaudioOut_asserted h
  refine ⟨⟨hinv.shared.submitted, hinv.shared.intact, fun i slot hslot => ⟨fun j hj => ?_, ?_⟩⟩, ?_⟩
  · cases hother : (s.thread j).slot? with
    | none => rfl
    | some slot' =>
      -- both would have the lock
      have hi := (hinv.thread i).holds.mp (AaudioSender.holds_of_slot hslot)
      have hj' := (hinv.thread j).holds.mp (AaudioSender.holds_of_slot hother)
      exact absurd (Option.some.inj (hj'.symm.trans hi)) hj
  · intro k sub hsub hk
    obtain ⟨hlt, -⟩ := List.getElem?_eq_some_iff.mp hsub
    obtain ⟨rfl, hroom⟩ := (hinv.thread i).slot hslot
    rw [(hinv.shared.submitted k sub hsub).slot]
    exact (hinv.shared.slot_ne hroom hk hlt).1
  · intro a s' d hstep hne
    obtain ⟨i, c, l, b, rfl, hrun, rfl⟩ | ⟨e, b, rfl, henv, rfl⟩ :=
      ThreadProgram.step_cases hstep
    · exact ⟨i, c, rfl, (aaudioSenderRun_spec hrun).data hne⟩
    · obtain ⟨t, ht⟩ := hinv.shared.totals
      exact absurd (congrFun (aaudioOutEnv_spec ht henv).1.data d) hne

/-- One message sent while another thread waits for the lock, and the second one
written after the completion of the first. -/
def twoSends : List (ThreadAction TwoThreads AaudioSenderChoice AaudioOutEvent) :=
  [.run .one (.send 500), .run .one (.reserve .next), .run .one .next, .run .one .next,
    .run .two (.send 500), .run .two (.reserve .next), .run .two .next,
    .run .one .next, .run .one (.write [1]), .run .one (.submit 16), .run .one .next,
    .run .one .next, .run .one .next, .run .one .next,
    .env (.complete ⟨0, 0, 7, 0, 0, 0⟩), .env .handler, .env .handler,
    .run .two .next, .run .two .next, .run .two (.write [2]), .run .two (.submit 16),
    .run .two .next]

theorem aaudio_out_slots_of_two :
    ∃ s, (aaudioOutProgram TwoThreads).system.Reachable (fun _ _ => True) s ∧
      s.shared.submissions.length = 2 ∧ s.shared.consumed = 1 ∧ AaudioOutSlots s := by
  have hrun : (aaudioOutProgram TwoThreads).system.Reachable (fun _ _ => True)
      ((aaudioOutProgram TwoThreads).system.after (fun _ _ => True) twoSends
        ⟨aaudioOutInit TwoThreads 7 0x1000, fun _ => .idle⟩) :=
    .after (.of_init ⟨⟨7, 0x1000, rfl⟩, fun _ => rfl⟩) (by decide +kernel)
  exact ⟨_, hrun, by decide +kernel, by decide +kernel, (aaudio_out_slots hrun).1⟩

end BceDriver
