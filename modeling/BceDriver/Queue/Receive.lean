import BceDriver.Queue.Counts
import BceDriver.Lib.StepSystem

/-!
# Receiving through posted buffers

The driver receives on a submission queue by posting empty buffers. A completion
handler takes the completions one by one, finds the message of each in a buffer,
gives it to a callback, and posts as many buffers as it took when it is through.

- `ReceivePath` has what the receive paths of the driver do differently: how many
  elements and buffers there are, and how the handler and the posting find theirs.
- The handler and its posting go step by step; the device completes what it was told
  of, in order and once, at any time in between.
- `posts`, `written` and `given` record what happened: the submissions made, what the
  device reported and wrote for each, and what the callback got, with the buffer it
  was read from.
- `ReceivePath.sound`: the result, for every path whose functions move the indices
  they should (`ReceivePath.Lawful`).
-/

namespace BceDriver

open RingIndex

/-! ## Paths -/

/-- A receive path: `κ` is its queue, `μ` what a buffer holds, and `ρ` what the
callback gets. -/
structure ReceivePath (κ μ ρ : Type) where
  ringCount : Nat
  bufCount : Nat
  elSize : Nat
  /-- how many buffers are posted to begin with -/
  pendingCount : Nat
  sq : κ → BceQueueSq
  setSq : BceQueueSq → κ → κ
  dmaAddr : κ → Nat
  data : κ → Nat → μ
  setData : (Nat → μ) → κ → κ
  /-- the buffer the handler reads -/
  headIndex : κ → Nat
  /-- what the callback gets of a completion and a buffer -/
  message : BceSqCompletionData → μ → ρ
  /-- the handler after its callback, up to the notification -/
  afterCallback : κ → κ
  /-- the buffer posted next -/
  tailIndex : κ → Nat
  /-- the posting after the element is filled in -/
  afterPost : κ → κ

namespace ReceivePath

variable {κ μ ρ : Type} (p : ReceivePath κ μ ρ)

/-- The condition of the handler's loop. -/
def take (q : κ) : Option (BceSqCompletionData × κ) :=
  (bceNextCompletion (p.sq q)).map fun r => (r.1, p.setSq r.2 q)

/-- What the callback is given, and from which buffer. -/
def deliver (c : BceSqCompletionData) (q : κ) : Nat × ρ :=
  (p.headIndex q, p.message c (p.data q (p.headIndex q)))

/-- A round of the handler's loop after the callback. -/
def finish (q : κ) : κ :=
  let q := p.afterCallback q
  p.setSq (bceNotifySubmissionComplete (p.sq q)) q

/-- The submission of the buffer that is posted next. -/
def entry (q : κ) : BceQeSubmission :=
  ⟨p.elSize, p.dmaAddr q + p.tailIndex q * p.elSize, 0, 0⟩

/-- A round of `submit_pending`; `none` is its `break`, which leaves the queue. -/
def post (q : κ) : Option κ :=
  match bceReserveSubmission (p.sq q) 0 with
  | (.returned 0, sq) =>
    let next := bceNextSubmission sq
    some (p.afterPost (p.setSq
      (bceSetSubmissionSingle next.2 next.1 (p.entry q).addr (p.entry q).length) q))
  | _ => none

/-- The loop of `submit_pending`. -/
def postLoop : Nat → κ → κ
  | 0, q => q
  | count + 1, q =>
    match p.post q with
    | some q => postLoop count q
    | none => q

/-- `submit_pending` -/
def submitPending (count : Nat) (q : κ) : κ :=
  let q := p.postLoop count q
  p.setSq (bceSubmitToDevice (p.sq q)) q

/-- The device writes into the buffer at an address. -/
def dmaWrite (addr : Nat) (m : μ) (q : κ) : κ :=
  p.setData (Function.update (p.data q) ((addr - p.dmaAddr q) / p.elSize) m) q

end ReceivePath

/-! ## Runs -/

/-- Where the handler is; the initial posting counts as a pass that has nothing to
take. -/
inductive ReceiveHandler where
  | idle
  | looping (cnt : Nat)
  | took (cnt : Nat) (c : BceSqCompletionData)
  /-- the callback returned -/
  | called (cnt : Nat)
  /-- in `submit_pending`, with so many buffers to go -/
  | posting (count : Nat)
  /-- about to ring the doorbell -/
  | ringing
deriving DecidableEq, Repr

structure Receive (κ μ ρ : Type) where
  queue : κ
  handler : ReceiveHandler
  posts : List BceQeSubmission
  written : List (BceSqCompletionData × μ)
  given : List (Nat × ρ)

inductive ReceiveAction (μ : Type) where
  /-- the handler is called -/
  | interrupt
  /-- the handler goes on -/
  | next
  /-- the device writes a message and completes the element it is for -/
  | complete (e : BceQeCompletion) (m : μ)
deriving DecidableEq, Repr

section Steps

variable {κ μ ρ : Type} (p : ReceivePath κ μ ρ)

/-- A step of the handler. -/
def receiveNext (s : Receive κ μ ρ) : Option (Receive κ μ ρ) :=
  match s.handler with
  | .idle => none
  | .looping cnt =>
    match p.take s.queue with
    | some (c, queue) => some { s with queue, handler := .took cnt c }
    | none => some { s with handler := .posting cnt }
  | .took cnt c =>
    some { s with handler := .called cnt, given := s.given ++ [p.deliver c s.queue] }
  | .called cnt => some { s with queue := p.finish s.queue, handler := .looping (cnt + 1) }
  | .posting 0 => some { s with handler := .ringing }
  | .posting (count + 1) =>
    match p.post s.queue with
    | some queue =>
      some { s with queue, handler := .posting count, posts := s.posts ++ [p.entry s.queue] }
    | none => some { s with handler := .ringing }
  | .ringing =>
    some { s with
      queue := p.setSq (bceSubmitToDevice (p.sq s.queue)) s.queue
      handler := .idle }

def receiveStep : ReceiveAction μ → Receive κ μ ρ → Option (Receive κ μ ρ)
  | .interrupt, s =>
    if s.handler = .idle then some { s with handler := .looping 0 } else none
  | .next, s => receiveNext p s
  | .complete e m, s =>
    let sq := p.sq s.queue
    -- it was told of the element, which is the next one to complete
    if sq.completionTail ≠ sq.doorbell ∧ e.completionIndex = sq.completionTail then
      let queue := p.dmaWrite (sq.data sq.completionTail).addr m s.queue
      some { s with
        queue := p.setSq (bceStoreCompletion (p.sq queue) e) queue
        written := s.written ++ [(⟨e.status, e.dataSize, e.result⟩, m)] }
    else none

/-- The runs of a path from the creation of its queue, with its buffers about to be
posted for the first time. -/
def receiveSystem : StepSystem (Receive κ μ ρ) (ReceiveAction μ) where
  init s := ∃ qid q, p.sq q = bceAllocSq qid p.ringCount ∧ p.headIndex q = 0 ∧
    p.tailIndex q = 0 ∧ s = ⟨q, .posting p.pendingCount, [], [], []⟩
  step := receiveStep p

end Steps

/-! ## Results -/

/-- What a receive path promises, in one state of a run. -/
structure ReceiveSound {κ μ ρ : Type} (p : ReceivePath κ μ ρ) (s : Receive κ μ ρ) : Prop where
  /-- the `k`-th message given to the callback is what the device wrote for the `k`-th
  submission, read from the buffer that one posted -/
  given : ∀ (k : Nat) (g : Nat × ρ), s.given[k]? = some g →
    ∃ entry w, s.posts[k]? = some entry ∧ s.written[k]? = some w ∧
      entry.addr = p.dmaAddr s.queue + g.1 * p.elSize ∧ g.2 = p.message w.1 w.2
  /-- a buffer is posted again only when its message has been given -/
  apart : ∀ (j k : Nat) (entry entry' : BceQeSubmission), s.posts[j]? = some entry →
    s.posts[k]? = some entry' → j < k → entry.addr = entry'.addr → j < s.given.length
  /-- nothing is given that was not completed, or completed that was not posted -/
  given_le : s.given.length ≤ s.written.length
  written_le : s.written.length ≤ s.posts.length
  /-- the handler goes on until everything completed is given -/
  emptied : ∀ cnt, s.handler = .looping cnt →
    (p.take s.queue = none ↔ s.given.length = s.written.length)
  /-- posting a buffer never fails to reserve a slot -/
  reserved : ∀ count, s.handler = .posting (count + 1) → (p.post s.queue).isSome = true
  /-- between passes the buffers posted and not given are as many as at first -/
  balanced : s.handler = .idle → s.posts.length = s.given.length + p.pendingCount

/-! ## What the functions of a path have to do -/

/-- The functions of a path change what they should and nothing else. -/
structure ReceivePath.Lawful {κ μ ρ : Type} (p : ReceivePath κ μ ρ) : Prop where
  elSize_pos : 0 < p.elSize
  pending_le : p.pendingCount ≤ p.bufCount
  pending_lt : p.pendingCount < p.ringCount
  sq_setSq : ∀ sq q, p.sq (p.setSq sq q) = sq
  data_setSq : ∀ sq q, p.data (p.setSq sq q) = p.data q
  dmaAddr_setSq : ∀ sq q, p.dmaAddr (p.setSq sq q) = p.dmaAddr q
  headIndex_setSq : ∀ sq q, sq.head = (p.sq q).head →
    p.headIndex (p.setSq sq q) = p.headIndex q
  tailIndex_setSq : ∀ sq q, sq.tail = (p.sq q).tail →
    p.tailIndex (p.setSq sq q) = p.tailIndex q
  sq_setData : ∀ d q, p.sq (p.setData d q) = p.sq q
  data_setData : ∀ d q, p.data (p.setData d q) = d
  dmaAddr_setData : ∀ d q, p.dmaAddr (p.setData d q) = p.dmaAddr q
  headIndex_setData : ∀ d q, p.headIndex (p.setData d q) = p.headIndex q
  tailIndex_setData : ∀ d q, p.tailIndex (p.setData d q) = p.tailIndex q
  sq_afterCallback : ∀ q, p.sq (p.afterCallback q) = p.sq q
  data_afterCallback : ∀ q, p.data (p.afterCallback q) = p.data q
  dmaAddr_afterCallback : ∀ q, p.dmaAddr (p.afterCallback q) = p.dmaAddr q
  tailIndex_afterCallback : ∀ q, p.tailIndex (p.afterCallback q) = p.tailIndex q
  sq_afterPost : ∀ q, p.sq (p.afterPost q) = p.sq q
  data_afterPost : ∀ q, p.data (p.afterPost q) = p.data q
  dmaAddr_afterPost : ∀ q, p.dmaAddr (p.afterPost q) = p.dmaAddr q
  headIndex_afterPost : ∀ q, p.headIndex (p.afterPost q) = p.headIndex q
  /-- the handler moves on by one buffer -/
  headIndex_finish : ∀ q, (p.sq q).elCount = p.ringCount →
    p.headIndex (p.finish q) = (p.headIndex q + 1) % p.bufCount
  /-- and so does the posting -/
  tailIndex_post : ∀ sq q, sq.tail = ((p.sq q).tail + 1) % p.ringCount →
    p.tailIndex (p.afterPost (p.setSq sq q)) = (p.tailIndex q + 1) % p.bufCount

/-! ## The invariant -/

/-- The completion taken and not given yet. -/
def ReceiveHandler.taken : ReceiveHandler → Nat
  | .took _ _ => 1
  | .idle | .looping _ | .called _ | .posting _ | .ringing => 0

/-- The completions taken whose slot is not given back yet. -/
def ReceiveHandler.owed : ReceiveHandler → Nat
  | .took _ _ | .called _ => 1
  | .idle | .looping _ | .posting _ | .ringing => 0

/-- The buffers given that the pass has to post. -/
def ReceiveHandler.due : ReceiveHandler → Nat
  | .looping cnt | .took cnt _ | .posting cnt => cnt
  | .called cnt => cnt + 1
  | .idle | .ringing => 0

section Invariant

variable {κ μ ρ : Type} (p : ReceivePath κ μ ρ)

/-- What the totals of the ring are. -/
structure Receive.Totals (s : Receive κ μ ρ) (t : SqTotals) : Prop where
  counts : SqCounts (p.sq s.queue) p.ringCount t
  submitted : t.submitted = s.posts.length
  completed : t.completed = s.written.length
  consumed : t.consumed = s.given.length + s.handler.taken
  notified : t.notified + s.handler.owed = t.consumed
  held : t.held = 0
  headIndex : p.headIndex s.queue = t.notified % p.bufCount
  tailIndex : p.tailIndex s.queue = t.submitted % p.bufCount

/-- What holds of the queue and of the records. -/
structure Receive.Ok (s : Receive κ μ ρ) : Prop where
  totals : ∃ t, s.Totals p t
  balance : s.posts.length + s.handler.due = s.given.length + p.pendingCount
  posted : ∀ (k : Nat) (entry : BceQeSubmission), s.posts[k]? = some entry →
    entry = ⟨p.elSize, p.dmaAddr s.queue + k % p.bufCount * p.elSize, 0, 0⟩
  ring : ∀ (k : Nat) (entry : BceQeSubmission), s.posts[k]? = some entry →
    s.written.length ≤ k → (p.sq s.queue).data (k % p.ringCount) = entry
  filled : ∀ (k : Nat) (w : BceSqCompletionData × μ), s.written[k]? = some w →
    s.given.length ≤ k → p.data s.queue (k % p.bufCount) = w.2 ∧
      (p.sq s.queue).completionData (k % p.ringCount) = w.1
  took : ∀ cnt c, s.handler = .took cnt c → ∃ w, s.written[s.given.length]? = some w ∧ w.1 = c
  given : ∀ (k : Nat) (g : Nat × ρ), s.given[k]? = some g →
    ∃ w, s.written[k]? = some w ∧ g = (k % p.bufCount, p.message w.1 w.2)

variable {p} {s s' : Receive κ μ ρ}

/-- The totals, in order. -/
theorem Receive.Ok.order (h : s.Ok p) : s.given.length + s.handler.taken ≤ s.written.length ∧
    s.written.length ≤ s.posts.length := by
  obtain ⟨t, ht⟩ := h.totals
  have hconsumed := ht.counts.consumed_le
  have hcompleted := ht.counts.completed_le
  have hrung := ht.counts.rung_le
  rw [ht.consumed, ht.completed] at hconsumed
  rw [ht.completed] at hcompleted
  rw [ht.submitted] at hrung
  exact ⟨hconsumed, Nat.le_trans hcompleted hrung⟩

/-- Nothing is written, and the records stay: what holds of them stays. -/
theorem Receive.Ok.update (h : s.Ok p) (htotals : ∃ t, s'.Totals p t)
    (hposts : s'.posts = s.posts) (hwritten : s'.written = s.written)
    (hgiven : s'.given = s.given) (hdue : s'.handler.due = s.handler.due)
    (hdma : p.dmaAddr s'.queue = p.dmaAddr s.queue)
    (hdata : p.data s'.queue = p.data s.queue)
    (hring : (p.sq s'.queue).data = (p.sq s.queue).data)
    (hcompletions : (p.sq s'.queue).completionData = (p.sq s.queue).completionData)
    (htook : ∀ cnt c, s'.handler = .took cnt c →
      ∃ w, s.written[s.given.length]? = some w ∧ w.1 = c) : s'.Ok p where
  totals := htotals
  balance := by
    rw [hposts, hgiven, hdue]
    exact h.balance
  posted k entry hentry := by
    rw [hdma]
    exact h.posted k entry (hposts ▸ hentry)
  ring k entry hentry hk := by
    rw [hring]
    exact h.ring k entry (hposts ▸ hentry) (hwritten ▸ hk)
  filled k w hw hk := by
    rw [hdata, hcompletions]
    exact h.filled k w (hwritten ▸ hw) (hgiven ▸ hk)
  took cnt c hc := by
    rw [hwritten, hgiven]
    exact htook cnt c hc
  given k g hg := by
    rw [hwritten]
    exact h.given k g (hgiven ▸ hg)

/-! ## A step keeps it -/

/-- A place with nothing taken is left for another one with as much due. -/
theorem Receive.Ok.moved (h : s.Ok p) {l : ReceiveHandler} (htaken : l.taken = 0)
    (htaken' : s.handler.taken = 0) (howed : l.owed = s.handler.owed)
    (hdue : l.due = s.handler.due) : ({ s with handler := l } : Receive κ μ ρ).Ok p := by
  obtain ⟨t, ht⟩ := h.totals
  refine h.update ⟨t, ht.counts, ht.submitted, ht.completed, ?_, ?_, ht.held, ht.headIndex,
    ht.tailIndex⟩ rfl rfl rfl hdue rfl rfl rfl rfl fun cnt c hc => ?_
  · rw [ht.consumed, htaken']
    exact congrArg (s.given.length + ·) htaken.symm
  · exact (congrArg (t.notified + ·) howed).trans ht.notified
  · rw [show l = .took cnt c from hc] at htaken
    cases htaken

/-- The handler takes a completion: it is the one for the next message. -/
theorem Receive.Ok.take (hp : p.Lawful) (h : s.Ok p) {cnt : Nat} {c : BceSqCompletionData}
    {queue : κ} (hhandler : s.handler = .looping cnt) (htake : p.take s.queue = some (c, queue)) :
    ({ s with queue, handler := .took cnt c } : Receive κ μ ρ).Ok p := by
  obtain ⟨t, ht⟩ := h.totals
  obtain ⟨⟨d, sq⟩, hnext, heq⟩ := Option.map_eq_some_iff.mp htake
  cases heq
  obtain ⟨hlt, hc, hsq, hcounts⟩ := ht.counts.consume hnext
  have hconsumed := ht.consumed
  have hnotified := ht.notified
  rw [hhandler] at hconsumed hnotified
  have hhead : sq.head = (p.sq s.queue).head := by rw [hsq]
  have htail : sq.tail = (p.sq s.queue).tail := by rw [hsq]
  refine h.update ⟨{ t with consumed := t.consumed + 1 }, ?_, ht.submitted, ht.completed, ?_, ?_,
      ht.held, ?_, ?_⟩ rfl rfl rfl (by rw [hhandler]; rfl) (hp.dmaAddr_setSq sq _)
    (hp.data_setSq sq _) ?_ ?_ ?_
  · rw [hp.sq_setSq]
    exact hcounts
  · exact congrArg (· + 1) hconsumed
  · exact congrArg (· + 1) hnotified
  · rw [hp.headIndex_setSq sq _ hhead]
    exact ht.headIndex
  · rw [hp.tailIndex_setSq sq _ htail]
    exact ht.tailIndex
  · rw [hp.sq_setSq, hsq]
  · rw [hp.sq_setSq, hsq]
  · rintro cnt' c' hc'
    cases hc'
    have hat : t.consumed = s.given.length := hconsumed
    have hwritten : s.given.length < s.written.length := by
      rw [← hat, ← ht.completed]
      exact hlt
    -- as many were taken as given, so this is the completion of the next one to give
    refine ⟨s.written[s.given.length], List.getElem?_eq_getElem hwritten, ?_⟩
    rw [hc, hat]
    exact ((h.filled s.given.length _ (List.getElem?_eq_getElem hwritten) (Nat.le_refl _)).2).symm

/-- The callback gets what the device wrote. -/
theorem Receive.Ok.call (h : s.Ok p) {cnt : Nat} {c : BceSqCompletionData}
    (hhandler : s.handler = .took cnt c) :
    ({ s with handler := .called cnt, given := s.given ++ [p.deliver c s.queue] } :
      Receive κ μ ρ).Ok p := by
  obtain ⟨t, ht⟩ := h.totals
  have hconsumed := ht.consumed
  have hnotified := ht.notified
  have hbalance := h.balance
  rw [hhandler] at hconsumed hnotified hbalance
  have hlen : (s.given ++ [p.deliver c s.queue]).length = s.given.length + 1 := by simp
  obtain ⟨w, hw, rfl⟩ := h.took cnt c hhandler
  refine ⟨⟨t, ht.counts, ht.submitted, ht.completed, ?_, hnotified, ht.held, ht.headIndex,
      ht.tailIndex⟩, ?_, h.posted, h.ring, fun k w' hw' hk => ?_, (fun _ _ hc => nomatch hc),
    fun k g hg => ?_⟩
  · exact hconsumed.trans hlen.symm
  · show s.posts.length + (cnt + 1) = (s.given ++ _).length + p.pendingCount
    rw [hlen]
    show s.posts.length + (cnt + 1) = _
    have hdue : s.posts.length + cnt = s.given.length + p.pendingCount := hbalance
    omega
  · have hk' : (s.given ++ [p.deliver w.1 s.queue]).length ≤ k := hk
    exact h.filled k w' hw' (by omega)
  · obtain hold | ⟨rfl, rfl⟩ := getElem?_concat hg
    · exact h.given k g hold
    · refine ⟨w, hw, ?_⟩
      -- `head` is still that of the buffer whose slot goes back next
      have hat : t.notified = s.given.length := Nat.succ_injective (hnotified.trans hconsumed)
      rw [ReceivePath.deliver, ht.headIndex, hat,
        (h.filled s.given.length w hw (Nat.le_refl _)).1]

/-- The slot goes back, and the handler moves on to the next buffer. -/
theorem Receive.Ok.finish (hp : p.Lawful) (h : s.Ok p) {cnt : Nat}
    (hhandler : s.handler = .called cnt) :
    ({ s with queue := p.finish s.queue, handler := .looping (cnt + 1) } :
      Receive κ μ ρ).Ok p := by
  obtain ⟨t, ht⟩ := h.totals
  have hconsumed := ht.consumed
  have hnotified := ht.notified
  rw [hhandler] at hconsumed hnotified
  have hsq : p.sq (p.finish s.queue) = bceNotifySubmissionComplete (p.sq s.queue) := by
    rw [ReceivePath.finish, hp.sq_setSq, hp.sq_afterCallback]
  refine h.update ⟨{ t with notified := t.notified + 1 }, ?_, ht.submitted, ht.completed,
      hconsumed, hnotified, ht.held, ?_, ?_⟩ rfl rfl rfl (by rw [hhandler]; rfl) ?_ ?_ ?_ ?_
    fun _ _ hc => nomatch hc
  · rw [hsq]
    exact ht.counts.notify (Nat.lt_of_succ_le (Nat.le_of_eq hnotified))
  · rw [hp.headIndex_finish _ ht.counts.elCount, ht.headIndex, Nat.mod_add_mod]
  · rw [ReceivePath.finish, hp.tailIndex_setSq _ _ (bceNotifySubmissionComplete_tail _),
      hp.tailIndex_afterCallback]
    exact ht.tailIndex
  · rw [ReceivePath.finish, hp.dmaAddr_setSq, hp.dmaAddr_afterCallback]
  · rw [ReceivePath.finish, hp.data_setSq, hp.data_afterCallback]
  · rw [hsq, bceNotifySubmissionComplete_data]
  · rw [hsq, bceNotifySubmissionComplete_completionData]

/-- With a buffer to post there is a slot for it, and its post takes the next one. -/
theorem Receive.Ok.post_some (hp : p.Lawful) (h : s.Ok p) {count : Nat}
    (hhandler : s.handler = .posting (count + 1)) :
    ∃ sq, p.post s.queue = some (p.afterPost (p.setSq sq s.queue)) ∧
      sq = bceSetSubmissionSingle (bceNextSubmission { p.sq s.queue with
          availableCommands := (p.sq s.queue).availableCommands - 1 }).2 (p.sq s.queue).tail
        (p.entry s.queue).addr (p.entry s.queue).length ∧
      0 < (p.sq s.queue).availableCommands := by
  obtain ⟨t, ht⟩ := h.totals
  have hconsumed := ht.consumed
  have hnotified := ht.notified
  have hbalance := h.balance
  rw [hhandler] at hconsumed hnotified hbalance
  have hdue : s.posts.length + (count + 1) = s.given.length + p.pendingCount := hbalance
  have hat : t.notified = s.given.length := hnotified.trans hconsumed
  have hcredit := ht.counts.credit
  have hlt := hp.pending_lt
  rw [ht.held, ht.submitted, hat] at hcredit
  -- fewer buffers than slots are out, counting the one to post
  have hpos : 0 < (p.sq s.queue).availableCommands := by
    push_cast at hcredit
    omega
  refine ⟨_, ?_, rfl, hpos⟩
  rw [ReceivePath.post, bceReserveSubmission_of_pos hpos]
  rfl

theorem Receive.Ok.post (hp : p.Lawful) (h : s.Ok p) {count : Nat} {queue : κ}
    (hhandler : s.handler = .posting (count + 1)) (hpost : p.post s.queue = some queue) :
    ({ s with queue, handler := .posting count, posts := s.posts ++ [p.entry s.queue] } :
      Receive κ μ ρ).Ok p := by
  obtain ⟨t, ht⟩ := h.totals
  have hconsumed := ht.consumed
  have hnotified := ht.notified
  have hbalance := h.balance
  rw [hhandler] at hconsumed hnotified hbalance
  have hdue : s.posts.length + (count + 1) = s.given.length + p.pendingCount := hbalance
  have hat : t.notified = s.given.length := hnotified.trans hconsumed
  obtain ⟨sq, hsome, hsq, hpos⟩ := h.post_some hp hhandler
  obtain rfl : p.afterPost (p.setSq sq s.queue) = queue := Option.some.inj (hsome.symm.trans hpost)
  have hnew : p.sq (p.afterPost (p.setSq sq s.queue)) = sq := by
    rw [hp.sq_afterPost, hp.sq_setSq]
  have hdma : p.dmaAddr (p.afterPost (p.setSq sq s.queue)) = p.dmaAddr s.queue := by
    rw [hp.dmaAddr_afterPost, hp.dmaAddr_setSq]
  have hdata : p.data (p.afterPost (p.setSq sq s.queue)) = p.data s.queue := by
    rw [hp.data_afterPost, hp.data_setSq]
  have hentry : p.entry s.queue =
      ⟨p.elSize, p.dmaAddr s.queue + s.posts.length % p.bufCount * p.elSize, 0, 0⟩ := by
    rw [ReceivePath.entry, ht.tailIndex, ht.submitted]
  have hslot : (p.sq s.queue).tail = s.posts.length % p.ringCount := by
    rw [ht.counts.tail, ht.submitted]
  have hring : sq.data =
      Function.update (p.sq s.queue).data (s.posts.length % p.ringCount) (p.entry s.queue) := by
    rw [hsq, ← hslot]
    rfl
  have hlen : (s.posts ++ [p.entry s.queue]).length = s.posts.length + 1 := by simp
  have hcounts := (ht.counts.reserve hpos).next (Nat.succ_pos _)
  refine ⟨⟨{ t with submitted := t.submitted + 1 }, ?_, ?_, ht.completed, hconsumed, hnotified,
      ht.held, ?_, ?_⟩, ?_, fun k entry hk => ?_, fun k entry hk hwritten => ?_,
    fun k w hw hk => ?_, (fun _ _ hc => nomatch hc), h.given⟩
  · rw [hnew, hsq]
    exact hcounts.of_same ⟨rfl, rfl, rfl, rfl, rfl, rfl, rfl⟩
  · exact (congrArg (· + 1) ht.submitted).trans hlen.symm
  · rw [hp.headIndex_afterPost, hp.headIndex_setSq _ _ (by rw [hsq]; rfl)]
    exact ht.headIndex
  · rw [hp.tailIndex_post _ _ (by rw [hsq, ← ht.counts.elCount]; rfl), ht.tailIndex,
      Nat.mod_add_mod]
  · show (s.posts ++ _).length + count = s.given.length + p.pendingCount
    rw [hlen]
    omega
  · rw [hdma]
    obtain hold | ⟨rfl, rfl⟩ := getElem?_concat hk
    · exact h.posted k entry hold
    · exact hentry
  · rw [hnew, hring]
    obtain hold | ⟨rfl, rfl⟩ := getElem?_concat hk
    · -- the new element is not one the device still has
      obtain ⟨hlt, -⟩ := List.getElem?_eq_some_iff.mp hold
      have horder := h.order.1
      have hnotyet : s.written.length ≤ k := hwritten
      have hpending := hp.pending_lt
      have hne : k % p.ringCount ≠ s.posts.length % p.ringCount := by
        intro heq
        have := eq_of_mod_eq (m := s.given.length) heq (by omega) (by omega) (by omega) (by omega)
        omega
      rw [Function.update_of_ne hne]
      exact h.ring k entry hold hwritten
    · exact Function.update_self _ _ _
  · rw [hdata, hnew]
    have hwas := h.filled k w hw hk
    exact ⟨hwas.1, by rw [hsq]; exact hwas.2⟩

/-- The doorbell tells the device of every buffer posted. -/
theorem Receive.Ok.ring_doorbell (hp : p.Lawful) (h : s.Ok p) (hhandler : s.handler = .ringing) :
    ({ s with queue := p.setSq (bceSubmitToDevice (p.sq s.queue)) s.queue, handler := .idle } :
      Receive κ μ ρ).Ok p := by
  obtain ⟨t, ht⟩ := h.totals
  have hconsumed := ht.consumed
  have hnotified := ht.notified
  rw [hhandler] at hconsumed hnotified
  refine h.update ⟨{ t with rung := t.submitted }, ?_, ht.submitted, ht.completed, hconsumed,
      hnotified, ht.held, ?_, ?_⟩ rfl rfl rfl (by rw [hhandler]; rfl) (hp.dmaAddr_setSq _ _)
    (hp.data_setSq _ _) (by rw [hp.sq_setSq]; rfl) (by rw [hp.sq_setSq]; rfl)
    fun _ _ hc => nomatch hc
  · rw [hp.sq_setSq]
    exact ht.counts.submit
  · exact (hp.headIndex_setSq (bceSubmitToDevice (p.sq s.queue)) _ rfl).trans ht.headIndex
  · exact (hp.tailIndex_setSq (bceSubmitToDevice (p.sq s.queue)) _ rfl).trans ht.tailIndex

/-- The device writes into a buffer whose message is none of those still to be given. -/
theorem Receive.Ok.complete (hp : p.Lawful) (h : s.Ok p) {e : BceQeCompletion} {m : μ}
    (hstep : receiveStep p (.complete e m) s = some s') : s'.Ok p := by
  obtain ⟨t, ht⟩ := h.totals
  obtain ⟨⟨hne, hindex⟩, heq⟩ := Option.ite_none_right_eq_some.mp hstep
  cases heq
  have hlt := ht.counts.completed_lt hne
  have horder := h.order
  have hbalance := h.balance
  have hpending := hp.pending_le
  have hring := hp.pending_lt
  have hrung := ht.counts.rung_le
  rw [ht.completed] at hlt
  rw [ht.submitted] at hrung
  have hposted : s.written.length < s.posts.length := Nat.lt_of_lt_of_le hlt hrung
  have hslot : (p.sq s.queue).completionTail = s.written.length % p.ringCount := by
    rw [ht.counts.completionTail, ht.completed]
  -- the element is the one of the next buffer that is posted and not completed
  have hat := h.ring s.written.length _ (List.getElem?_eq_getElem hposted) (Nat.le_refl _)
  have haddr : ((p.sq s.queue).data (p.sq s.queue).completionTail).addr =
      p.dmaAddr s.queue + s.written.length % p.bufCount * p.elSize := by
    rw [hslot, hat, h.posted _ _ (List.getElem?_eq_getElem hposted)]
  have hbuf : (((p.sq s.queue).data (p.sq s.queue).completionTail).addr - p.dmaAddr s.queue) /
      p.elSize = s.written.length % p.bufCount := by
    rw [haddr, Nat.add_sub_cancel_left, Nat.mul_div_cancel _ hp.elSize_pos]
  generalize hqueue : p.dmaWrite ((p.sq s.queue).data (p.sq s.queue).completionTail).addr m
    s.queue = queue
  have hsq : p.sq queue = p.sq s.queue := by
    rw [← hqueue, ReceivePath.dmaWrite, hp.sq_setData]
  have hdma : p.dmaAddr queue = p.dmaAddr s.queue := by
    rw [← hqueue, ReceivePath.dmaWrite, hp.dmaAddr_setData]
  have hhead : p.headIndex queue = p.headIndex s.queue := by
    rw [← hqueue, ReceivePath.dmaWrite, hp.headIndex_setData]
  have htail : p.tailIndex queue = p.tailIndex s.queue := by
    rw [← hqueue, ReceivePath.dmaWrite, hp.tailIndex_setData]
  have hdata : p.data queue =
      Function.update (p.data s.queue) (s.written.length % p.bufCount) m := by
    rw [← hqueue, ReceivePath.dmaWrite, hp.data_setData, hbuf]
  have hlen : (s.written ++ [((⟨e.status, e.dataSize, e.result⟩ : BceSqCompletionData), m)]).length
      = s.written.length + 1 := by simp
  refine ⟨⟨{ t with completed := t.completed + 1 }, ?_, ht.submitted, ?_, ht.consumed, ht.notified,
      ht.held, ?_, ?_⟩, h.balance, fun k entry hk => ?_, fun k entry hk hwritten => ?_,
    fun k w hw hk => ?_, fun cnt c hc => ?_, fun k g hg => ?_⟩
  · rw [hp.sq_setSq, hsq]
    exact ht.counts.store (by rw [ht.completed]; exact hlt) e
  · exact (congrArg (· + 1) ht.completed).trans hlen.symm
  · rw [hp.headIndex_setSq (bceStoreCompletion (p.sq queue) e) queue rfl, hhead]
    exact ht.headIndex
  · rw [hp.tailIndex_setSq (bceStoreCompletion (p.sq queue) e) queue rfl, htail]
    exact ht.tailIndex
  · rw [hp.dmaAddr_setSq, hdma]
    exact h.posted k entry hk
  · rw [hp.sq_setSq, hsq]
    have hnotyet : (s.written ++ [_]).length ≤ k := hwritten
    rw [hlen] at hnotyet
    exact h.ring k entry hk (Nat.le_of_succ_le hnotyet)
  · rw [hp.data_setSq, hp.sq_setSq, hsq, hdata]
    show _ ∧ Function.update (p.sq s.queue).completionData e.completionIndex _ _ = w.1
    rw [hindex, hslot]
    have hgiven : s.given.length ≤ k := hk
    obtain hold | ⟨rfl, rfl⟩ := getElem?_concat hw
    · -- an older message that is not given yet is in another buffer and another slot
      obtain ⟨hk', -⟩ := List.getElem?_eq_some_iff.mp hold
      have hbufNe : k % p.bufCount ≠ s.written.length % p.bufCount := by
        intro heq
        have := eq_of_mod_eq (m := s.given.length) heq hgiven (by omega) (by omega) (by omega)
        omega
      have hslotNe : k % p.ringCount ≠ s.written.length % p.ringCount := by
        intro heq
        have := eq_of_mod_eq (m := s.given.length) heq hgiven (by omega) (by omega) (by omega)
        omega
      rw [Function.update_of_ne hbufNe, Function.update_of_ne hslotNe]
      exact h.filled k w hold hgiven
    · exact ⟨Function.update_self _ _ _, Function.update_self _ _ _⟩
  · obtain ⟨w, hw, hwc⟩ := h.took cnt c hc
    obtain ⟨hlt', -⟩ := List.getElem?_eq_some_iff.mp hw
    exact ⟨w, (List.getElem?_append_left hlt').trans hw, hwc⟩
  · obtain ⟨w, hw, heq⟩ := h.given k g hg
    obtain ⟨hlt', -⟩ := List.getElem?_eq_some_iff.mp hw
    exact ⟨w, (List.getElem?_append_left hlt').trans hw, heq⟩

theorem Receive.Ok.next (hp : p.Lawful) (h : s.Ok p) (hstep : receiveNext p s = some s') :
    s'.Ok p := by
  unfold receiveNext at hstep
  split at hstep
  · cases hstep
  · next cnt hhandler =>
    split at hstep
    · next c queue htake =>
      cases hstep
      exact h.take hp hhandler htake
    · cases hstep
      exact h.moved rfl (by rw [hhandler]; rfl) (by rw [hhandler]; rfl) (by rw [hhandler]; rfl)
  · next cnt c hhandler =>
    cases hstep
    exact h.call hhandler
  · next cnt hhandler =>
    cases hstep
    exact h.finish hp hhandler
  · next hhandler =>
    cases hstep
    exact h.moved rfl (by rw [hhandler]; rfl) (by rw [hhandler]; rfl) (by rw [hhandler]; rfl)
  · next count hhandler =>
    split at hstep
    · next queue hpost =>
      cases hstep
      exact h.post hp hhandler hpost
    · next hpost =>
      -- a reservation that fails: there is none
      obtain ⟨sq, hsome, -⟩ := h.post_some hp hhandler
      rw [hpost] at hsome
      cases hsome
  · next hhandler =>
    cases hstep
    exact h.ring_doorbell hp hhandler

theorem Receive.Ok.step (hp : p.Lawful) (h : s.Ok p) {a : ReceiveAction μ}
    (hstep : receiveStep p a s = some s') : s'.Ok p := by
  cases a with
  | interrupt =>
    obtain ⟨hhandler, heq⟩ := Option.ite_none_right_eq_some.mp hstep
    cases heq
    exact h.moved rfl (by rw [hhandler]; rfl) (by rw [hhandler]; rfl) (by rw [hhandler]; rfl)
  | next => exact h.next hp hstep
  | complete e m => exact h.complete hp hstep

theorem Receive.Ok.init (hp : p.Lawful) (h : (receiveSystem p).init s) : s.Ok p := by
  obtain ⟨qid, q, hsq, hhead, htail, rfl⟩ := h
  refine ⟨⟨⟨0, 0, 0, 0, 0, 0⟩, ?_, rfl, rfl, rfl, rfl, rfl, hhead.trans (Nat.zero_mod _).symm,
      htail.trans (Nat.zero_mod _).symm⟩, ?_, fun k _ hk => ?_, fun k _ hk => ?_, fun k _ hk => ?_,
    (fun _ _ hc => nomatch hc), fun k _ hk => ?_⟩
  · rw [hsq]
    exact .init (Nat.zero_lt_of_lt hp.pending_lt)
  · rfl
  all_goals cases hk

/-- The invariant of every run. -/
theorem receive_ok (hp : p.Lawful) (h : (receiveSystem p).Reachable (fun _ _ => True) s) :
    s.Ok p :=
  h.invariant (fun _ => Receive.Ok.init hp) fun _ _ _ _ hok _ hstep => hok.step hp hstep

/-- What the invariant says of the posts and the messages. -/
theorem Receive.Ok.sound (hp : p.Lawful) (h : s.Ok p) : ReceiveSound p s where
  given k g hg := by
    obtain ⟨w, hw, rfl⟩ := h.given k g hg
    obtain ⟨hk, -⟩ := List.getElem?_eq_some_iff.mp hg
    have horder := h.order
    have hposted : k < s.posts.length := by omega
    refine ⟨_, w, List.getElem?_eq_getElem hposted, hw, ?_, rfl⟩
    rw [h.posted k _ (List.getElem?_eq_getElem hposted)]
  apart j k entry entry' hj hk hlt haddr := by
    obtain ⟨hposted, -⟩ := List.getElem?_eq_some_iff.mp hk
    rw [h.posted j entry hj, h.posted k entry' hk] at haddr
    have hmod : j % p.bufCount = k % p.bufCount :=
      Nat.eq_of_mul_eq_mul_right hp.elSize_pos (Nat.add_left_cancel haddr)
    have hbalance := h.balance
    have hpending := hp.pending_le
    by_contra hnot
    have := eq_of_mod_eq (m := s.given.length) hmod (by omega) (by omega) (by omega) (by omega)
    omega
  given_le := Nat.le_of_add_right_le h.order.1
  written_le := h.order.2
  emptied cnt hhandler := by
    obtain ⟨t, ht⟩ := h.totals
    have hconsumed := ht.consumed
    rw [hhandler] at hconsumed
    rw [ReceivePath.take, Option.map_eq_none_iff, ht.counts.nextCompletion_none_iff, ht.completed,
      hconsumed]
    rfl
  reserved count hhandler := by
    obtain ⟨sq, hsome, -⟩ := h.post_some hp hhandler
    rw [hsome]
    rfl
  balanced hhandler := by
    have hbalance := h.balance
    rw [hhandler] at hbalance
    exact hbalance

end Invariant

end BceDriver
