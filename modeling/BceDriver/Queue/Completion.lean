import BceDriver.Queue.Credit
import Mathlib.Data.Finset.Card

/-!
# The completion queue scan (`bce_handle_cq_completions`)

The interrupt handler walks a completion queue from `cq->index` over the
entries the device has flagged, hands each one to the submission queue it
names, and runs the completion callback of every queue that accepted one.

Out-of-bounds accesses are visible: `queues`, `int_sq_list` and
`completion_data` are accessed under their bounds and the result is `none`
where the code would leave an array, or where the scan does not end within one
revolution of the ring. A callback works on the submission queues and on the
rest of the driver (`ω`), not on `dev->queues` or `int_sq_list`.

- `acceptedEntries`: which entries of a scan a queue accepts, its tail moving
  under them.
- `ScanInv`: the list of queues to call back has no duplicates and is what the
  `has_pending_completions` flags say, which bounds it by `BCE_MAX_QUEUE_COUNT`.
- `cq_pass_of_live_queues`: the whole pass.
-/

namespace BceDriver

open RingIndex

def BCE_MAX_QUEUE_COUNT : Nat := 0x100

structure BceQueueCq where
  qid : Nat
  elCount : Nat
  data : Nat → BceQeCompletion
  index : Nat
  /-- the value last written to the queue's doorbell register -/
  doorbell : Nat
  index_lt : index < elCount

/-- A pointer of `dev->queues`, with the type the object it points to has. -/
inductive BceQueueRef where
  | cq (ptr : Nat)
  | sq (ptr : Nat)
deriving DecidableEq

structure AppleBceDevice where
  queues : Nat → Option BceQueueRef
  /-- the submission queues in memory, by address -/
  sqs : Nat → BceQueueSq
  intSqList : Nat → Nat

/-- `e->flags & BCE_COMPLETION_FLAG_PENDING` -/
def BceQeCompletion.pending (e : BceQeCompletion) : Bool :=
  e.flags &&& BCE_COMPLETION_FLAG_PENDING != 0

/-- Clear the flags of the entry at `index` and move on. -/
def BceQueueCq.consume (cq : BceQueueCq) : BceQueueCq :=
  { cq with
    data := Function.update cq.data cq.index { cq.data cq.index with flags := 0 }
    index := (cq.index + 1) % cq.elCount
    index_lt := Nat.mod_lt _ (Nat.lt_of_le_of_lt (Nat.zero_le _) cq.index_lt) }

/-- `bce_handle_cq_completion`; `ce` is the length of `int_sq_list`. -/
def bceHandleCqCompletion (dev : AppleBceDevice) (e : BceQeCompletion) (ce : Nat) :
    Option (AppleBceDevice × Nat) :=
  if e.qid ≥ BCE_MAX_QUEUE_COUNT then
    some (dev, ce)
  else
    match dev.queues e.qid with
    | none => some (dev, ce)
    | some (.cq _) => some (dev, ce)
    | some (.sq p) =>
      let targetSq := dev.sqs p
      if targetSq.completionTail ≠ e.completionIndex then
        some (dev, ce)
      else if e.completionIndex ≥ targetSq.elCount then
        none
      else if targetSq.hasPendingCompletions then
        some ({ dev with sqs := Function.update dev.sqs p (bceStoreCompletion targetSq e) }, ce)
      else if ce ≥ BCE_MAX_QUEUE_COUNT then
        none
      else
        let targetSq := { targetSq with hasPendingCompletions := true }
        some ({ dev with
          sqs := Function.update dev.sqs p (bceStoreCompletion targetSq e)
          intSqList := Function.update dev.intSqList ce p }, ce + 1)

/-- The loop of `bce_handle_cq_completions` over the flagged entries. -/
def bceHandleCqCompletionsScan :
    Nat → AppleBceDevice → BceQueueCq → Nat → Option (AppleBceDevice × BceQueueCq × Nat)
  | 0, _, _, _ => none
  | fuel + 1, dev, cq, ce =>
    if (cq.data cq.index).pending then
      match bceHandleCqCompletion dev (cq.data cq.index) ce with
      | none => none
      | some (dev, ce) => bceHandleCqCompletionsScan fuel dev cq.consume ce
    else
      some (dev, cq, ce)

section Callbacks

variable {ω : Type*} (completion : Nat → (Nat → BceQueueSq) × ω → (Nat → BceQueueSq) × ω)

/-- The last loop of `bce_handle_cq_completions`: the callbacks, from the end
of `int_sq_list` down. Also returns the queues called back, in order. -/
def bceHandleCqCompletionsCallbacks (intSqList : Nat → Nat) :
    Nat → (Nat → BceQueueSq) × ω → (Nat → BceQueueSq) × ω × List Nat
  | 0, (sqs, w) => (sqs, w, [])
  | ce + 1, (sqs, w) =>
    let sq := intSqList ce
    let (sqs, w) := completion sq (sqs, w)
    let sqs := Function.update sqs sq { sqs sq with hasPendingCompletions := false }
    let (sqs, w, ran) := bceHandleCqCompletionsCallbacks intSqList ce (sqs, w)
    (sqs, w, sq :: ran)

/-- The callbacks of the queues `ran`, in this order, the flag of each queue reset
after its callback. -/
def calledBack (ran : List Nat) (x : (Nat → BceQueueSq) × ω) : (Nat → BceQueueSq) × ω :=
  ran.foldl (fun x sq =>
    let x := completion sq x
    (Function.update x.1 sq { x.1 sq with hasPendingCompletions := false }, x.2)) x

/-- What a pass leaves: the device, the completion queue, the rest of the
driver, and the queues called back. -/
structure CqPass (ω : Type*) where
  dev : AppleBceDevice
  cq : BceQueueCq
  /-- the submission queues after the scan, before the first callback -/
  scanned : Nat → BceQueueSq
  world : ω
  ran : List Nat

/-- `bce_handle_cq_completions` -/
def bceHandleCqCompletions (dev : AppleBceDevice) (cq : BceQueueCq) (w : ω) :
    Option (CqPass ω) :=
  if !(cq.data cq.index).pending then
    some ⟨dev, cq, dev.sqs, w, []⟩
  else
    match bceHandleCqCompletionsScan (cq.elCount + 1) dev cq 0 with
    | none => none
    | some (dev, cq, ce) =>
      if ce > BCE_MAX_QUEUE_COUNT then
        none
      else
        let (sqs, w, ran) :=
          bceHandleCqCompletionsCallbacks completion dev.intSqList ce (dev.sqs, w)
        some ⟨{ dev with sqs }, { cq with doorbell := cq.index }, dev.sqs, w, ran⟩

end Callbacks

/-! ## What a queue accepts of a scan -/

/-- What `bce_handle_cq_completion` copies out of an entry. -/
def BceQeCompletion.stored (e : BceQeCompletion) : BceSqCompletionData :=
  ⟨e.status, e.dataSize, e.result⟩

/-- The entries a queue of `n` elements registered under `qid` accepts, its
tail at `tail` before the first. -/
def acceptedEntries (n qid : Nat) : Nat → List BceQeCompletion → List BceQeCompletion
  | _, [] => []
  | tail, e :: es =>
    if e.qid = qid ∧ e.completionIndex = tail then
      e :: acceptedEntries n qid ((tail + 1) % n) es
    else
      acceptedEntries n qid tail es

/-- The submission queue at `p` is registered under its own `qid`. -/
def AppleBceDevice.Registered (dev : AppleBceDevice) (p : Nat) : Prop :=
  (dev.sqs p).qid < BCE_MAX_QUEUE_COUNT ∧ dev.queues (dev.sqs p).qid = some (.sq p)

instance (dev : AppleBceDevice) (p : Nat) : Decidable (dev.Registered p) :=
  inferInstanceAs (Decidable (_ ∧ _))

/-- The entries of a scan that the queue at `p` accepts. -/
def AppleBceDevice.acceptedFor (dev : AppleBceDevice) (es : List BceQeCompletion) (p : Nat) :
    List BceQeCompletion :=
  if dev.Registered p then
    acceptedEntries (dev.sqs p).elCount (dev.sqs p).qid (dev.sqs p).completionTail es
  else []

/-- A queue after accepting `es`: the data at successive positions, the tail
past them, and the flag set if there are any. -/
def BceQueueSq.accept (sq : BceQueueSq) (es : List BceQeCompletion) : BceQueueSq :=
  es.foldl (fun sq e => bceStoreCompletion { sq with hasPendingCompletions := true } e) sq

/-- The submission queues of a live device: registered under their own `qid`,
with a nonempty ring and a tail inside it. -/
def AppleBceDevice.Live (dev : AppleBceDevice) : Prop :=
  ∀ qid p, qid < BCE_MAX_QUEUE_COUNT → dev.queues qid = some (.sq p) →
    (dev.sqs p).qid = qid ∧ 0 < (dev.sqs p).elCount ∧
      (dev.sqs p).completionTail < (dev.sqs p).elCount

theorem AppleBceDevice.Live.of_registered {dev : AppleBceDevice} (h : dev.Live) {p : Nat}
    (hp : dev.Registered p) :
    0 < (dev.sqs p).elCount ∧ (dev.sqs p).completionTail < (dev.sqs p).elCount :=
  (h _ p hp.1 hp.2).2

/-- Two registered queues with one `qid` are one queue. -/
theorem AppleBceDevice.Registered.unique {dev : AppleBceDevice} {p p' : Nat}
    (hp : dev.Registered p) (hp' : dev.Registered p')
    (hq : (dev.sqs p).qid = (dev.sqs p').qid) : p = p' := by
  have h := hp.2
  rw [hq, hp'.2] at h
  simpa using h.symm

@[simp] theorem bceStoreCompletion_qid (sq : BceQueueSq) (e : BceQeCompletion) :
    (bceStoreCompletion sq e).qid = sq.qid := rfl

@[simp] theorem bceStoreCompletion_elCount (sq : BceQueueSq) (e : BceQeCompletion) :
    (bceStoreCompletion sq e).elCount = sq.elCount := rfl

namespace BceQueueSq

@[simp] theorem accept_qid (es : List BceQeCompletion) (sq : BceQueueSq) :
    (sq.accept es).qid = sq.qid := by
  induction es generalizing sq with
  | nil => rfl
  | cons e es ih => exact ih _

@[simp] theorem accept_elCount (es : List BceQeCompletion) (sq : BceQueueSq) :
    (sq.accept es).elCount = sq.elCount := by
  induction es generalizing sq with
  | nil => rfl
  | cons e es ih => exact ih _

theorem accept_hasPendingCompletions (es : List BceQeCompletion) (sq : BceQueueSq) :
    (sq.accept es).hasPendingCompletions = (sq.hasPendingCompletions || !es.isEmpty) := by
  induction es generalizing sq with
  | nil => simp [accept]
  | cons e es ih =>
    show ((bceStoreCompletion { sq with hasPendingCompletions := true } e).accept
      es).hasPendingCompletions = _
    rw [ih]
    simp [bceStoreCompletion]

/-- The accepted entries are stored at successive positions from the tail on,
and the tail ends past the last of them. -/
theorem accept_acceptedEntries (qid : Nat) (es : List BceQeCompletion) :
    ∀ (sq : BceQueueSq), sq.completionTail < sq.elCount →
      (sq.accept (acceptedEntries sq.elCount qid sq.completionTail es)).completionTail =
        advance sq.elCount sq.completionTail
          (acceptedEntries sq.elCount qid sq.completionTail es).length ∧
      (sq.accept (acceptedEntries sq.elCount qid sq.completionTail es)).completionData =
        writeAll sq.elCount sq.completionData sq.completionTail
          ((acceptedEntries sq.elCount qid sq.completionTail es).map BceQeCompletion.stored) := by
  induction es with
  | nil =>
    intro sq hlt
    exact ⟨(advance_zero hlt).symm, rfl⟩
  | cons e es ih =>
    intro sq hlt
    by_cases he : e.qid = qid ∧ e.completionIndex = sq.completionTail
    · have hih := ih (bceStoreCompletion { sq with hasPendingCompletions := true } e)
        (Nat.mod_lt _ (by show 0 < sq.elCount; omega))
      simp only [acceptedEntries, if_pos he]
      refine ⟨?_, ?_⟩
      · refine hih.1.trans ?_
        show advance sq.elCount (advance sq.elCount sq.completionTail 1) _ = _
        rw [advance_advance, Nat.add_comm]
        rfl
      · refine hih.2.trans ?_
        show writeAll sq.elCount (Function.update sq.completionData e.completionIndex e.stored)
          _ _ = _
        rw [he.2]
        rfl
    · simp only [acceptedEntries, if_neg he]
      exact ih sq hlt

end BceQueueSq


/-! ## The scan -/

/-- The queues on `int_sq_list`. -/
def AppleBceDevice.listed (dev : AppleBceDevice) (ce : Nat) : List Nat :=
  (List.range ce).map dev.intSqList

/-- `int_sq_list` holds, once each, the registered queues with
`has_pending_completions` set. -/
structure ScanInv (dev : AppleBceDevice) (ce : Nat) : Prop where
  live : dev.Live
  nodup : (dev.listed ce).Nodup
  mem : ∀ p, p ∈ dev.listed ce ↔ dev.Registered p ∧ (dev.sqs p).hasPendingCompletions = true

namespace ScanInv

variable {dev : AppleBceDevice} {ce : Nat}

/-- Registered queues without duplicates have distinct `qid`s below the bound. -/
theorem length_le {dev : AppleBceDevice} {l : List Nat} (hl : l.Nodup)
    (hreg : ∀ p ∈ l, dev.Registered p) : l.length ≤ BCE_MAX_QUEUE_COUNT := by
  have hnodup : (l.map fun p => (dev.sqs p).qid).Nodup :=
    hl.map_on fun p hp p' hp' heq => (hreg p hp).unique (hreg p' hp') heq
  have hsub : (l.map fun p => (dev.sqs p).qid).toFinset ⊆ Finset.range BCE_MAX_QUEUE_COUNT := by
    intro q hq
    obtain ⟨p, hp, rfl⟩ := List.mem_map.mp (List.mem_toFinset.mp hq)
    exact Finset.mem_range.mpr (hreg p hp).1
  have hcard := Finset.card_le_card hsub
  rwa [List.toFinset_card_of_nodup hnodup, List.length_map, Finset.card_range] at hcard

/-- `int_sq_list` never holds more than `BCE_MAX_QUEUE_COUNT` queues. -/
theorem ce_le (h : ScanInv dev ce) : ce ≤ BCE_MAX_QUEUE_COUNT := by
  have hreg : ∀ p ∈ dev.listed ce, dev.Registered p := fun p hp => ((h.mem p).mp hp).1
  have hlen := length_le h.nodup hreg
  simpa [AppleBceDevice.listed] using hlen

/-- There is room for a registered queue that is not listed yet. -/
theorem ce_lt (h : ScanInv dev ce) {p : Nat} (hp : dev.Registered p)
    (hnew : (dev.sqs p).hasPendingCompletions = false) : ce < BCE_MAX_QUEUE_COUNT := by
  have hnotin : p ∉ dev.listed ce := fun hin => by
    have := ((h.mem p).mp hin).2
    simp [hnew] at this
  have hreg : ∀ q ∈ p :: dev.listed ce, dev.Registered q := by
    intro q hq
    rcases List.mem_cons.mp hq with rfl | hq
    · exact hp
    · exact ((h.mem q).mp hq).1
  have hlen := length_le (List.nodup_cons.mpr ⟨hnotin, h.nodup⟩) hreg
  exact Nat.lt_of_succ_le (by simpa [AppleBceDevice.listed] using hlen)

end ScanInv

/-- A queue accepts an entry. -/
def AppleBceDevice.Accepts (dev : AppleBceDevice) (e : BceQeCompletion) (p : Nat) : Prop :=
  dev.Registered p ∧ e.qid = (dev.sqs p).qid ∧ e.completionIndex = (dev.sqs p).completionTail

instance (dev : AppleBceDevice) (e : BceQeCompletion) (p : Nat) : Decidable (dev.Accepts e p) :=
  inferInstanceAs (Decidable (_ ∧ _ ∧ _))

/-- The four ways `bce_handle_cq_completion` goes on a live device. -/
theorem bceHandleCqCompletion_cases {dev : AppleBceDevice} {ce : Nat} (h : ScanInv dev ce)
    (e : BceQeCompletion) :
    (bceHandleCqCompletion dev e ce = some (dev, ce) ∧ ∀ p, ¬dev.Accepts e p) ∨
    (∃ p, dev.Accepts e p ∧ (dev.sqs p).hasPendingCompletions = true ∧
      bceHandleCqCompletion dev e ce = some
        ({ dev with sqs := Function.update dev.sqs p ((dev.sqs p).accept [e]) }, ce)) ∨
    (∃ p, dev.Accepts e p ∧ (dev.sqs p).hasPendingCompletions = false ∧
      bceHandleCqCompletion dev e ce = some
        ({ dev with
          sqs := Function.update dev.sqs p ((dev.sqs p).accept [e])
          intSqList := Function.update dev.intSqList ce p }, ce + 1)) := by
  unfold bceHandleCqCompletion
  by_cases hqid : e.qid ≥ BCE_MAX_QUEUE_COUNT
  · refine .inl ⟨if_pos hqid, fun p hp => ?_⟩
    have := hp.1.1
    rw [← hp.2.1] at this
    omega
  · rw [if_neg hqid]
    -- an accepting queue is the one the table names
    have hname : ∀ p, dev.Accepts e p → dev.queues e.qid = some (.sq p) := by
      intro p hp
      rw [hp.2.1]
      exact hp.1.2
    cases hq : dev.queues e.qid with
    | none =>
      refine .inl ⟨rfl, fun p hp => ?_⟩
      simp [hname p hp] at hq
    | some r =>
      cases r with
      | cq c =>
        refine .inl ⟨rfl, fun p hp => ?_⟩
        simp [hname p hp] at hq
      | sq p =>
        obtain ⟨hown, -, htail⟩ := h.live e.qid p (by omega) hq
        have hreg : dev.Registered p := ⟨by rw [hown]; omega, by rw [hown]; exact hq⟩
        by_cases hidx : (dev.sqs p).completionTail ≠ e.completionIndex
        · refine .inl ⟨if_pos hidx, fun p' hp' => ?_⟩
          have hpp : p = p' := by simpa [hq] using hname p' hp'
          rw [hpp] at hidx
          exact hidx hp'.2.2.symm
        · have hidx : e.completionIndex = (dev.sqs p).completionTail := by
            simpa using Eq.symm (not_not.mp hidx)
          have hacc : dev.Accepts e p := ⟨hreg, hown.symm, hidx⟩
          have hin : ¬e.completionIndex ≥ (dev.sqs p).elCount := by omega
          by_cases hpend : (dev.sqs p).hasPendingCompletions = true
          · refine .inr (.inl ⟨p, hacc, hpend, ?_⟩)
            simp only [hidx, ne_eq, not_true_eq_false, if_false, hidx ▸ hin, hpend, if_true,
              BceQueueSq.accept, List.foldl_cons, List.foldl_nil]
            have heq : ({ dev.sqs p with hasPendingCompletions := true } : BceQueueSq) =
                dev.sqs p := by
              rw [← hpend]
            rw [heq]
          · have hpend : (dev.sqs p).hasPendingCompletions = false := by simpa using hpend
            have hroom : ¬ce ≥ BCE_MAX_QUEUE_COUNT := by
              have := h.ce_lt hreg hpend
              omega
            refine .inr (.inr ⟨p, hacc, hpend, ?_⟩)
            simp [hidx, hidx ▸ hin, hpend, hroom, BceQueueSq.accept]

/-- Storing into a queue leaves every registration and every ring alive. -/
theorem registered_update {dev : AppleBceDevice} {p : Nat} {es : List BceQeCompletion}
    {l : Nat → Nat} (p' : Nat) :
    (AppleBceDevice.mk dev.queues
      (Function.update dev.sqs p ((dev.sqs p).accept es)) l).Registered p' ↔
      dev.Registered p' := by
  by_cases hp : p' = p
  · subst hp
    simp [AppleBceDevice.Registered]
  · simp [AppleBceDevice.Registered, hp]

theorem live_update {dev : AppleBceDevice} (h : dev.Live) {p : Nat} (e : BceQeCompletion)
    {l : Nat → Nat} :
    (AppleBceDevice.mk dev.queues
      (Function.update dev.sqs p ((dev.sqs p).accept [e])) l).Live := by
  intro qid p' hqid hq
  obtain ⟨hown, hpos, htail⟩ := h qid p' hqid hq
  by_cases hp : p' = p
  · subst hp
    simp only [Function.update_self, BceQueueSq.accept_qid, BceQueueSq.accept_elCount]
    exact ⟨hown, hpos, Nat.mod_lt _ hpos⟩
  · simp only [Function.update_of_ne hp]
    exact ⟨hown, hpos, htail⟩

/-- One entry: the queue that accepts it stores it, every other stays, and the
list stays what the flags say. -/
theorem bceHandleCqCompletion_spec {dev : AppleBceDevice} {ce : Nat} (h : ScanInv dev ce)
    (e : BceQeCompletion) :
    ∃ dev' ce', bceHandleCqCompletion dev e ce = some (dev', ce') ∧ ScanInv dev' ce' ∧
      dev'.queues = dev.queues ∧
      ∀ p, dev'.sqs p = if dev.Accepts e p then (dev.sqs p).accept [e] else dev.sqs p := by
  have hsqs : ∀ {p}, dev.Accepts e p → ∀ p', Function.update dev.sqs p ((dev.sqs p).accept [e]) p' =
      if dev.Accepts e p' then (dev.sqs p').accept [e] else dev.sqs p' := by
    intro p hp p'
    by_cases hpp : p' = p
    · subst hpp
      rw [Function.update_self, if_pos hp]
    · have hno : ¬dev.Accepts e p' := fun hp' =>
        hpp (hp'.1.unique hp.1 (hp'.2.1.symm.trans hp.2.1))
      rw [Function.update_of_ne hpp, if_neg hno]
  rcases bceHandleCqCompletion_cases h e with ⟨heq, hno⟩ | ⟨p, hp, hpend, heq⟩ | ⟨p, hp, hnew, heq⟩
  · exact ⟨dev, ce, heq, h, rfl, fun p => (if_neg (hno p)).symm⟩
  · refine ⟨_, _, heq, ⟨live_update h.live e, h.nodup, fun p' => ?_⟩, rfl, hsqs hp⟩
    refine (h.mem p').trans ?_
    rw [registered_update]
    by_cases hpp : p' = p
    · subst hpp
      simp [hpend, BceQueueSq.accept_hasPendingCompletions]
    · simp [hpp]
  · have hkeep : ∀ i ∈ List.range ce, Function.update dev.intSqList ce p i = dev.intSqList i := by
      intro i hi
      have := List.mem_range.mp hi
      rw [Function.update_of_ne (by omega)]
    have hlist : AppleBceDevice.listed { dev with
        sqs := Function.update dev.sqs p ((dev.sqs p).accept [e])
        intSqList := Function.update dev.intSqList ce p } (ce + 1) = dev.listed ce ++ [p] := by
      simp only [AppleBceDevice.listed, List.range_succ, List.map_append, List.map_cons,
        List.map_nil, Function.update_self]
      rw [List.map_congr_left hkeep]
    -- its flag was down, so it is not listed yet
    have hnotin : p ∉ dev.listed ce := fun hin => by
      have := ((h.mem p).mp hin).2
      simp [hnew] at this
    refine ⟨_, _, heq, ⟨live_update h.live e, ?_, fun p' => ?_⟩, rfl, hsqs hp⟩
    · rw [hlist]
      exact List.nodup_append.mpr ⟨h.nodup, List.nodup_singleton _, by
        intro a ha b hb
        rw [List.mem_singleton.mp hb]
        rintro rfl
        exact hnotin ha⟩
    · rw [hlist, List.mem_append, List.mem_singleton, h.mem p', registered_update]
      by_cases hpp : p' = p
      · subst hpp
        simp [hp.1, BceQueueSq.accept_hasPendingCompletions]
      · simp [hpp]

/-- `bce_handle_cq_completion` on a list of entries. -/
def bceHandleCqCompletionAll (es : List BceQeCompletion) (x : AppleBceDevice × Nat) :
    Option (AppleBceDevice × Nat) :=
  es.foldlM (fun x e => bceHandleCqCompletion x.1 e x.2) x

/-- **A whole scan**, by induction on its entries: each queue ends with exactly
the entries it accepts, in order. -/
theorem bceHandleCqCompletionAll_spec (es : List BceQeCompletion) :
    ∀ {dev : AppleBceDevice} {ce : Nat}, ScanInv dev ce →
      ∃ dev' ce', bceHandleCqCompletionAll es (dev, ce) = some (dev', ce') ∧ ScanInv dev' ce' ∧
        dev'.queues = dev.queues ∧
        ∀ p, dev'.sqs p = (dev.sqs p).accept (dev.acceptedFor es p) := by
  induction es with
  | nil =>
    intro dev ce h
    refine ⟨dev, ce, rfl, h, rfl, fun p => ?_⟩
    unfold AppleBceDevice.acceptedFor
    split <;> rfl
  | cons e es ih =>
    intro dev ce h
    obtain ⟨dev₁, ce₁, heq₁, hinv₁, hqueues₁, hsqs₁⟩ := bceHandleCqCompletion_spec h e
    obtain ⟨dev', ce', heq', hinv', hqueues', hsqs'⟩ := ih hinv₁
    refine ⟨dev', ce', ?_, hinv', hqueues'.trans hqueues₁, fun p => ?_⟩
    · show (bceHandleCqCompletion dev e ce).bind _ = _
      rw [heq₁]
      exact heq'
    · have hqid : (dev₁.sqs p).qid = (dev.sqs p).qid := by
        rw [hsqs₁]
        split <;> simp
      have hcount : (dev₁.sqs p).elCount = (dev.sqs p).elCount := by
        rw [hsqs₁]
        split <;> simp
      have hreg : dev₁.Registered p ↔ dev.Registered p := by
        unfold AppleBceDevice.Registered
        rw [hqid, hqueues₁]
      rw [hsqs' p]
      unfold AppleBceDevice.acceptedFor
      by_cases hp : dev.Registered p
      · -- the next entry is expected one position further on, if this one was accepted
        rw [if_pos (hreg.mpr hp), if_pos hp, hqid, hcount]
        by_cases hacc : dev.Accepts e p
        · have hone : acceptedEntries (dev.sqs p).elCount (dev.sqs p).qid
              (dev.sqs p).completionTail (e :: es) =
              e :: acceptedEntries (dev.sqs p).elCount (dev.sqs p).qid
                (((dev.sqs p).completionTail + 1) % (dev.sqs p).elCount) es := by
            simp only [acceptedEntries, if_pos hacc.2]
          rw [hone, hsqs₁ p, if_pos hacc]
          rfl
        · have hskip : acceptedEntries (dev.sqs p).elCount (dev.sqs p).qid
              (dev.sqs p).completionTail (e :: es) =
              acceptedEntries (dev.sqs p).elCount (dev.sqs p).qid
                (dev.sqs p).completionTail es := by
            simp only [acceptedEntries, if_neg fun hc => hacc ⟨hp, hc⟩]
          rw [hskip, hsqs₁ p, if_neg hacc]
      · have hacc : ¬dev.Accepts e p := fun hacc => hp hacc.1
        rw [if_neg (fun hc => hp (hreg.mp hc)), if_neg hp, hsqs₁ p, if_neg hacc]

/-! ## The cyclic scan -/

/-- The `k` entries from `cq->index` on. -/
def BceQueueCq.entries (cq : BceQueueCq) (k : Nat) : List BceQeCompletion :=
  (List.range k).map fun i => cq.data (advance cq.elCount cq.index i)

namespace BceQueueCq

variable (cq : BceQueueCq)

theorem elCount_pos : 0 < cq.elCount := Nat.lt_of_le_of_lt (Nat.zero_le _) cq.index_lt

/-- Consuming an entry leaves the ones ahead of it within the revolution. -/
theorem consume_data {i : Nat} (hi : i + 1 < cq.elCount) :
    cq.consume.data (advance cq.elCount cq.consume.index i) =
      cq.data (advance cq.elCount cq.index (i + 1)) := by
  have hne : advance cq.elCount cq.index (i + 1) ≠ cq.index := by
    intro heq
    have h0 : advance cq.elCount cq.index (i + 1) = advance cq.elCount cq.index 0 := by
      rw [heq, advance_zero cq.index_lt]
    have := advance_inj cq.index_lt hi cq.elCount_pos h0
    omega
  show Function.update cq.data cq.index _ (advance cq.elCount (advance cq.elCount cq.index 1) i) = _
  rw [advance_advance, Nat.add_comm 1 i, Function.update_of_ne hne]

theorem entries_succ {k : Nat} (hk : k + 1 ≤ cq.elCount) :
    cq.entries (k + 1) = cq.data cq.index :: cq.consume.entries k := by
  unfold entries
  rw [List.range_succ_eq_map, List.map_cons, List.map_map, advance_zero cq.index_lt]
  congr 1
  refine List.map_congr_left fun i hi => ?_
  have := List.mem_range.mp hi
  exact (cq.consume_data (by omega)).symm

/-- Consuming `k` entries of one revolution. -/
theorem consume_iterate {k : Nat} (hk : k ≤ cq.elCount) :
    (consume^[k] cq).qid = cq.qid ∧ (consume^[k] cq).elCount = cq.elCount ∧
      (consume^[k] cq).doorbell = cq.doorbell ∧
      (consume^[k] cq).index = advance cq.elCount cq.index k ∧
      ∀ i < cq.elCount, (consume^[k] cq).data (advance cq.elCount cq.index i) =
        if i < k then { cq.data (advance cq.elCount cq.index i) with flags := 0 }
        else cq.data (advance cq.elCount cq.index i) := by
  induction k with
  | zero => exact ⟨rfl, rfl, rfl, (advance_zero cq.index_lt).symm, fun i _ => by simp⟩
  | succ k ih =>
    obtain ⟨hqid, hcount, hdoor, hindex, hdata⟩ := ih (by omega)
    rw [Function.iterate_succ_apply']
    refine ⟨hqid, hcount, hdoor, ?_, fun i hi => ?_⟩
    · show ((consume^[k] cq).index + 1) % (consume^[k] cq).elCount = _
      rw [hindex, hcount, advance_succ]
    · show Function.update (consume^[k] cq).data (consume^[k] cq).index
        { (consume^[k] cq).data (consume^[k] cq).index with flags := 0 } _ = _
      rw [hindex]
      by_cases hik : i = k
      · subst hik
        rw [Function.update_self, hdata i hi, if_neg (by omega), if_pos (by omega)]
      · have hne : advance cq.elCount cq.index i ≠ advance cq.elCount cq.index k := fun heq =>
          hik (advance_inj cq.index_lt hi (by omega) heq)
        rw [Function.update_of_ne hne, hdata i hi]
        by_cases hlt : i < k
        · rw [if_pos hlt, if_pos (by omega)]
        · rw [if_neg hlt, if_neg (by omega)]

end BceQueueCq

/-- The loop stops at the first entry that is not flagged: with `k` flagged
entries ahead of one, inside the revolution, it handles exactly those `k`. -/
theorem scan_of_stop (k : Nat) :
    ∀ (dev : AppleBceDevice) (cq : BceQueueCq) (ce fuel : Nat), k < fuel → k < cq.elCount →
      (∀ i < k, (cq.data (advance cq.elCount cq.index i)).pending = true) →
      (cq.data (advance cq.elCount cq.index k)).pending = false →
      bceHandleCqCompletionsScan fuel dev cq ce =
        (bceHandleCqCompletionAll (cq.entries k) (dev, ce)).map
          fun x => (x.1, BceQueueCq.consume^[k] cq, x.2) := by
  induction k with
  | zero =>
    intro dev cq ce fuel hfuel _ _ hstop
    obtain ⟨fuel, rfl⟩ := Nat.exists_eq_succ_of_ne_zero (by omega : fuel ≠ 0)
    rw [advance_zero cq.index_lt] at hstop
    simp [bceHandleCqCompletionsScan, hstop, bceHandleCqCompletionAll, BceQueueCq.entries]
  | succ k ih =>
    intro dev cq ce fuel hfuel hk hflag hstop
    obtain ⟨fuel, rfl⟩ := Nat.exists_eq_succ_of_ne_zero (by omega : fuel ≠ 0)
    have hfirst : (cq.data cq.index).pending = true := by
      have := hflag 0 (by omega)
      rwa [advance_zero cq.index_lt] at this
    rw [cq.entries_succ (by omega)]
    simp only [bceHandleCqCompletionsScan, hfirst, if_true, bceHandleCqCompletionAll,
      List.foldlM_cons, Function.iterate_succ_apply]
    cases hone : bceHandleCqCompletion dev (cq.data cq.index) ce with
    | none => rfl
    | some x =>
      refine ih x.1 cq.consume x.2 fuel (by omega) (by show k < cq.elCount; omega) ?_ ?_
      · intro i hi
        show (cq.consume.data (advance cq.elCount cq.consume.index i)).pending = true
        rw [cq.consume_data (by omega)]
        exact hflag (i + 1) (by omega)
      · show (cq.consume.data (advance cq.elCount cq.consume.index k)).pending = false
        rw [cq.consume_data hk]
        exact hstop

/-- The maximal run of flagged entries: up to the first that is not, or the
whole ring. -/
def BceQueueCq.FlaggedRun (cq : BceQueueCq) (k : Nat) : Prop :=
  k ≤ cq.elCount ∧ (∀ i < k, (cq.data (advance cq.elCount cq.index i)).pending = true) ∧
    (k < cq.elCount → (cq.data (advance cq.elCount cq.index k)).pending = false)

theorem BceQueueCq.exists_flaggedRun (cq : BceQueueCq) : ∃ k, cq.FlaggedRun k := by
  have hrun : ∀ m ≤ cq.elCount,
      (∀ i < m, (cq.data (advance cq.elCount cq.index i)).pending = true) ∨
        ∃ k < m, cq.FlaggedRun k := by
    intro m
    induction m with
    | zero => exact fun _ => .inl fun i hi => absurd hi (Nat.not_lt_zero i)
    | succ m ih =>
      intro hm
      rcases ih (by omega) with hall | ⟨k, hk, hrun⟩
      · cases hp : (cq.data (advance cq.elCount cq.index m)).pending with
        | true =>
          refine .inl fun i hi => ?_
          by_cases him : i = m
          · rw [him]
            exact hp
          · exact hall i (by omega)
        | false => exact .inr ⟨m, Nat.lt_succ_self m, by omega, hall, fun _ => hp⟩
      · exact .inr ⟨k, by omega, hrun⟩
  rcases hrun cq.elCount (Nat.le_refl _) with hall | ⟨k, -, hk⟩
  · exact ⟨cq.elCount, Nat.le_refl _, hall, fun h => absurd h (Nat.lt_irrefl _)⟩
  · exact ⟨k, hk⟩

/-- The scan handles the maximal flagged run and nothing else, a full ring
included: there the flags it cleared itself stop it. -/
theorem scan_of_flaggedRun {dev : AppleBceDevice} {cq : BceQueueCq} {k ce : Nat}
    (hk : cq.FlaggedRun k) :
    bceHandleCqCompletionsScan (cq.elCount + 1) dev cq ce =
      (bceHandleCqCompletionAll (cq.entries k) (dev, ce)).map
        fun x => (x.1, BceQueueCq.consume^[k] cq, x.2) := by
  obtain ⟨hle, hflag, hstop⟩ := hk
  by_cases hlt : k < cq.elCount
  · exact scan_of_stop k dev cq ce _ (by omega) hlt hflag (hstop hlt)
  · obtain ⟨j, hj⟩ := Nat.exists_eq_succ_of_ne_zero (Nat.ne_of_gt cq.elCount_pos)
    obtain rfl : k = j + 1 := by omega
    have hfirst : (cq.data cq.index).pending = true := by
      have := hflag 0 (by omega)
      rwa [advance_zero cq.index_lt] at this
    rw [cq.entries_succ (by omega)]
    simp only [bceHandleCqCompletionsScan, hfirst, if_true, bceHandleCqCompletionAll,
      List.foldlM_cons, Function.iterate_succ_apply]
    cases hone : bceHandleCqCompletion dev (cq.data cq.index) ce with
    | none => rfl
    | some x =>
      refine scan_of_stop j x.1 cq.consume x.2 _ (by omega) (by show j < cq.elCount; omega) ?_ ?_
      · intro i hi
        show (cq.consume.data (advance cq.elCount cq.consume.index i)).pending = true
        rw [cq.consume_data (by omega)]
        exact hflag (i + 1) (by omega)
      · -- one revolution on, the entry is the one just cleared
        have hround : advance cq.elCount cq.consume.index j = cq.index := by
          show advance cq.elCount (advance cq.elCount cq.index 1) j = _
          rw [advance_advance, Nat.add_comm 1 j, show j + 1 = cq.elCount from hj.symm]
          exact advance_self cq.index_lt
        show (cq.consume.data (advance cq.elCount cq.consume.index j)).pending = false
        rw [hround]
        show (Function.update cq.data cq.index _ cq.index).pending = false
        rw [Function.update_self]
        simp [BceQeCompletion.pending]

/-! ## The callbacks and the whole pass -/

/-- The fields of a queue that the scan relies on are as they were. -/
def SameQueueFields (sq sq' : BceQueueSq) : Prop :=
  sq.qid = sq'.qid ∧ sq.elCount = sq'.elCount ∧ sq.completionTail = sq'.completionTail ∧
    sq.hasPendingCompletions = sq'.hasPendingCompletions

section Pass

variable {ω : Type*} {completion : Nat → (Nat → BceQueueSq) × ω → (Nat → BceQueueSq) × ω}

/-- Every listed queue is called back, last one first, and its flag is reset;
no other flag changes. -/
theorem bceHandleCqCompletionsCallbacks_spec
    (hcb : ∀ p x q, SameQueueFields ((completion p x).1 q) (x.1 q)) (intSqList : Nat → Nat) :
    ∀ (ce : Nat) (sqs : Nat → BceQueueSq) (w : ω),
      (bceHandleCqCompletionsCallbacks completion intSqList ce (sqs, w)).2.2 =
        ((List.range ce).map intSqList).reverse ∧
      ∀ p, SameQueueFields
        ((bceHandleCqCompletionsCallbacks completion intSqList ce (sqs, w)).1 p)
        { sqs p with hasPendingCompletions :=
            if p ∈ (List.range ce).map intSqList then false
              else (sqs p).hasPendingCompletions } := by
  intro ce
  -- the callbacks run from the last queue listed to the first
  induction ce with
  | zero => exact fun sqs w => ⟨rfl, fun p => ⟨rfl, rfl, rfl, rfl⟩⟩
  | succ ce ih =>
    intro sqs w
    obtain ⟨hran, hfields⟩ := ih
      (Function.update (completion (intSqList ce) (sqs, w)).1 (intSqList ce)
        { (completion (intSqList ce) (sqs, w)).1 (intSqList ce) with
            hasPendingCompletions := false })
      (completion (intSqList ce) (sqs, w)).2
    refine ⟨?_, fun p => ?_⟩
    · show intSqList ce :: _ = _
      rw [hran, List.range_succ, List.map_append, List.reverse_append]
      rfl
    · have hp := hfields p
      have hsame := hcb (intSqList ce) (sqs, w) p
      refine ⟨hp.1.trans ?_, hp.2.1.trans ?_, hp.2.2.1.trans ?_, hp.2.2.2.trans ?_⟩
      · by_cases hpc : p = intSqList ce
        · subst hpc
          simpa using hsame.1
        · simpa [hpc] using hsame.1
      · by_cases hpc : p = intSqList ce
        · subst hpc
          simpa using hsame.2.1
        · simpa [hpc] using hsame.2.1
      · by_cases hpc : p = intSqList ce
        · subst hpc
          simpa using hsame.2.2.1
        · simpa [hpc] using hsame.2.2.1
      · rw [List.range_succ, List.map_append]
        by_cases hpc : p = intSqList ce
        · subst hpc
          simp
        · simpa [hpc] using congrArg
            (fun b => if p ∈ (List.range ce).map intSqList then false else b) hsame.2.2.2

/-- What the last loop leaves is what the callbacks of the queues it reports
leave. -/
theorem bceHandleCqCompletionsCallbacks_calledBack (intSqList : Nat → Nat) :
    ∀ (ce : Nat) (sqs : Nat → BceQueueSq) (w : ω),
      ((bceHandleCqCompletionsCallbacks completion intSqList ce (sqs, w)).1,
        (bceHandleCqCompletionsCallbacks completion intSqList ce (sqs, w)).2.1) =
      calledBack completion
        (bceHandleCqCompletionsCallbacks completion intSqList ce (sqs, w)).2.2 (sqs, w) := by
  intro ce
  induction ce with
  | zero => exact fun sqs w => rfl
  | succ ce ih => exact fun sqs w => ih _ _

/-- **One pass over a completion queue.** On live queues with their flags
down, whatever the ring holds, the pass ends inside its arrays after the
maximal flagged run; the run's flags are cleared, and the index and the doorbell
are past it; every submission queue has stored the entries it accepts at
successive positions; and the pass leaves what the callbacks make of that, run
once for each queue that accepted some, and for no other. -/
theorem cq_pass_of_live_queues
    (hcb : ∀ p x q, SameQueueFields ((completion p x).1 q) (x.1 q))
    {dev : AppleBceDevice} (hlive : dev.Live)
    (hidle : ∀ p, dev.Registered p → (dev.sqs p).hasPendingCompletions = false)
    (cq : BceQueueCq) (w : ω) :
    ∃ k pass, cq.FlaggedRun k ∧ bceHandleCqCompletions completion dev cq w = some pass ∧
      pass.cq.elCount = cq.elCount ∧ pass.cq.index = advance cq.elCount cq.index k ∧
      (∀ i < cq.elCount, pass.cq.data (advance cq.elCount cq.index i) =
        if i < k then { cq.data (advance cq.elCount cq.index i) with flags := 0 }
        else cq.data (advance cq.elCount cq.index i)) ∧
      (∀ p, pass.scanned p = (dev.sqs p).accept (dev.acceptedFor (cq.entries k) p)) ∧
      (∀ p, dev.Registered p →
        (pass.scanned p).completionTail =
          advance (dev.sqs p).elCount (dev.sqs p).completionTail
            (dev.acceptedFor (cq.entries k) p).length ∧
        (pass.scanned p).completionData =
          writeAll (dev.sqs p).elCount (dev.sqs p).completionData (dev.sqs p).completionTail
            ((dev.acceptedFor (cq.entries k) p).map BceQeCompletion.stored)) ∧
      pass.ran.Nodup ∧ (∀ p, p ∈ pass.ran ↔ dev.acceptedFor (cq.entries k) p ≠ []) ∧
      (pass.dev.sqs, pass.world) = calledBack completion pass.ran (pass.scanned, w) ∧
      pass.cq.doorbell = (if k = 0 then cq.doorbell else pass.cq.index) ∧
      pass.dev.queues = dev.queues ∧
      (∀ p, dev.Registered p → (pass.dev.sqs p).hasPendingCompletions = false) := by
  obtain ⟨k, hk⟩ := cq.exists_flaggedRun
  have hinv : ScanInv dev 0 := by
    refine ⟨hlive, List.nodup_nil, fun p => ⟨fun hp => absurd hp List.not_mem_nil, ?_⟩⟩
    rintro ⟨hp, hpend⟩
    simp [hidle p hp] at hpend
  obtain ⟨dev', ce, hall, hinv', hqueues, hsqs⟩ := bceHandleCqCompletionAll_spec (cq.entries k) hinv
  have hstored : ∀ p, dev.Registered p →
      (dev'.sqs p).completionTail =
        advance (dev.sqs p).elCount (dev.sqs p).completionTail
          (dev.acceptedFor (cq.entries k) p).length ∧
      (dev'.sqs p).completionData =
        writeAll (dev.sqs p).elCount (dev.sqs p).completionData (dev.sqs p).completionTail
          ((dev.acceptedFor (cq.entries k) p).map BceQeCompletion.stored) := by
    intro p hp
    rw [hsqs p, AppleBceDevice.acceptedFor, if_pos hp]
    exact BceQueueSq.accept_acceptedEntries _ _ _ (hlive.of_registered hp).2
  have hreg : ∀ p, dev'.Registered p ↔ dev.Registered p := by
    intro p
    unfold AppleBceDevice.Registered
    rw [hsqs p, BceQueueSq.accept_qid, hqueues]
  have hlisted : ∀ p, p ∈ dev'.listed ce ↔ dev.acceptedFor (cq.entries k) p ≠ [] := by
    intro p
    rw [hinv'.mem p, hreg p, hsqs p, BceQueueSq.accept_hasPendingCompletions]
    by_cases hp : dev.Registered p
    · simp [hp, hidle p hp]
    · simp [hp, AppleBceDevice.acceptedFor]
  obtain ⟨-, hcount, -, hindex, hdata⟩ := cq.consume_iterate hk.1
  unfold bceHandleCqCompletions
  by_cases hfirst : (cq.data cq.index).pending = true
  · -- the scan runs, then the callbacks
    obtain ⟨hran, hfields⟩ :=
      bceHandleCqCompletionsCallbacks_spec hcb dev'.intSqList ce dev'.sqs w
    have hroom : ¬ce > BCE_MAX_QUEUE_COUNT := Nat.not_lt.mpr hinv'.ce_le
    rw [hfirst, scan_of_flaggedRun hk, hall]
    simp only [Bool.not_true, Bool.false_eq_true, if_false, Option.map_some, if_neg hroom]
    -- the first entry is flagged, so the run is not empty
    have hne : k ≠ 0 := by
      rintro rfl
      have := hk.2.2 cq.elCount_pos
      rw [advance_zero cq.index_lt, hfirst] at this
      exact Bool.false_ne_true this.symm
    refine ⟨k, _, hk, rfl, hcount, hindex, hdata, hsqs, hstored, ?_, ?_,
      bceHandleCqCompletionsCallbacks_calledBack _ _ _ _, (if_neg hne).symm, hqueues, ?_⟩
    · show (bceHandleCqCompletionsCallbacks completion dev'.intSqList ce (dev'.sqs, w)).2.2.Nodup
      rw [hran]
      exact List.nodup_reverse.mpr hinv'.nodup
    · intro p
      show p ∈ (bceHandleCqCompletionsCallbacks completion dev'.intSqList ce (dev'.sqs, w)).2.2 ↔ _
      rw [hran, List.mem_reverse]
      exact hlisted p
    · intro p hp
      refine (hfields p).2.2.2.trans ?_
      show (if p ∈ dev'.listed ce then false else (dev'.sqs p).hasPendingCompletions) = false
      by_cases hin : p ∈ dev'.listed ce
      · rw [if_pos hin]
      · rw [if_neg hin]
        have hout := fun hpend => hin ((hinv'.mem p).mpr ⟨(hreg p).mpr hp, hpend⟩)
        simpa using hout
  · -- nothing is flagged: the early return
    -- the run starts with the first entry
    have hzero : k = 0 := by
      by_contra hne
      have := hk.2.1 0 (by omega)
      rw [advance_zero cq.index_lt] at this
      exact hfirst this
    subst hzero
    have hfirst : (cq.data cq.index).pending = false := by simpa using hfirst
    have hnone : ∀ p, dev.acceptedFor (cq.entries 0) p = [] := by
      intro p
      unfold AppleBceDevice.acceptedFor
      split <;> rfl
    rw [hfirst]
    refine ⟨0, _, hk, rfl, rfl, hindex, hdata, fun p => by rw [hnone p]; rfl, ?_,
      List.nodup_nil, fun p => by simp [hnone p], rfl, rfl, rfl, hidle⟩
    intro p hp
    rw [hnone p]
    exact ⟨(advance_zero (hlive.of_registered hp).2).symm, rfl⟩

end Pass

/-- The pass on a ring of two flagged entries for one live queue, the first of
them out of order: the other is stored, and the callback, which here notes whom
it is run for, has run once. -/
theorem cq_pass_of_a_live_queue :
    ∃ pass, bceHandleCqCompletions (fun p x => (x.1, p :: x.2))
        ⟨fun q => if q = 5 then some (.sq 9) else none, fun _ => bceAllocSq 5 4, fun _ => 0⟩
        ⟨2, 2, fun i => ⟨7, 8, 5, i, 3, BCE_COMPLETION_FLAG_PENDING⟩, 1, 0, by decide⟩ [] =
          some pass ∧
      pass.world = [9] ∧ (pass.dev.sqs 9).completionTail = 1 ∧
      (pass.dev.sqs 9).completionData 0 = BceQeCompletion.stored ⟨7, 8, 5, 0, 3, 0⟩ ∧
      pass.cq.doorbell = 1 := by
  have hlive : AppleBceDevice.Live
      ⟨fun q => if q = 5 then some (.sq 9) else none, fun _ => bceAllocSq 5 4, fun _ => 0⟩ := by
    intro qid p _ hq
    by_cases h5 : qid = 5
    · subst h5
      exact ⟨rfl, Nat.zero_lt_succ 3, Nat.zero_lt_succ 3⟩
    · simp [h5] at hq
  have h := @cq_pass_of_live_queues (List Nat) (fun p x => (x.1, p :: x.2))
    (fun _ _ _ => ⟨rfl, rfl, rfl, rfl⟩) _ hlive (fun _ _ => rfl)
    ⟨2, 2, fun i => ⟨7, 8, 5, i, 3, BCE_COMPLETION_FLAG_PENDING⟩, 1, 0, by decide⟩ []
  obtain ⟨k, pass, ⟨hle, -, hstop⟩, hpass, -, hindex, -, -, hstored, hnodup, hran, hcalled,
    hdoor, -⟩ := h
  -- both entries are flagged
  have hk : k = 2 := by
    by_contra hne
    have hflag := hstop (Nat.lt_of_le_of_ne hle hne)
    simp [BceQeCompletion.pending, BCE_COMPLETION_FLAG_PENDING] at hflag
  subst hk
  have hacc : ∀ p, p ∈ pass.ran ↔ p = 9 := by
    intro p
    rw [hran p]
    by_cases hp : p = 9
    · subst hp
      exact ⟨fun _ => rfl, fun _ => by decide⟩
    · have hnot : ¬AppleBceDevice.Registered
          ⟨fun q => if q = 5 then some (.sq 9) else none, fun _ => bceAllocSq 5 4,
            fun _ => 0⟩ p := by
        rintro ⟨-, hq⟩
        exact hp (BceQueueRef.sq.inj (Option.some.inj hq)).symm
      simp [AppleBceDevice.acceptedFor, hnot, hp]
  have hone : pass.ran = [9] :=
    List.perm_singleton.mp ((List.perm_ext_iff_of_nodup hnodup (List.nodup_singleton 9)).mpr
      fun p => (hacc p).trans List.mem_singleton.symm)
  obtain ⟨htail, hdata⟩ := hstored 9 (by decide)
  rw [hone] at hcalled
  have hsqs := congrArg Prod.fst hcalled
  refine ⟨pass, hpass, congrArg Prod.snd hcalled, ?_, ?_, by rw [hdoor, hindex]; rfl⟩
  · show (pass.dev.sqs 9).completionTail = 1
    rw [show pass.dev.sqs = _ from hsqs]
    exact htail
  · rw [show pass.dev.sqs = _ from hsqs]
    show (pass.scanned 9).completionData 0 = _
    rw [hdata]
    decide

end BceDriver
