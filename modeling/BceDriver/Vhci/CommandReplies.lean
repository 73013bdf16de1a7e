import BceDriver.Vhci.CommandExchange

/-!
# Replies and the requests they answer

A reply is recognised by its opcode alone, so a late one can be taken for the reply
to a later request, or to a later cancellation.

- `CommandExchange.Accepts`: the replies with which a call returns 0.
- `StaleReply`: the delivery about to complete a wait has written a reply to an
  earlier call, and the exchange accepts it.
- `command_reply_to_request`: where that does not happen, a call that returns 0 has
  the reply to its own request.
-/

namespace BceDriver

variable {ι : Type} [DecidableEq ι]

/-! ## Replies that are accepted -/

/-- The call returns 0 with the reply `res`: it has the opcode of the request, says
success (or nothing), and, for a cancellation, is not marked as cancelled. -/
def CommandExchange.Accepts (x : CommandExchange) (res : BceVhciMessage) : Prop :=
  res.cmd &&& 0x3FFF = x.req.cmd &&& 0xBFFF ∧
    (res.status = BCE_VHCI_SUCCESS ∨ res.status = 0) ∧
    (x.cancel = true → res.cmd &&& 0x4000 = 0)

instance CommandExchange.decidableAccepts (x : CommandExchange) (res : BceVhciMessage) :
    Decidable (x.Accepts res) :=
  inferInstanceAs (Decidable (_ ∧ _ ∧ _))

theorem commandReplyStatus_eq_zero {req res : BceVhciMessage} :
    commandReplyStatus req res = 0 ↔
      res.cmd &&& 0x3FFF = req.cmd &&& 0xBFFF ∧
        (res.status = BCE_VHCI_SUCCESS ∨ res.status = 0) := by
  unfold commandReplyStatus
  split
  · next hcmd =>
    constructor
    · exact fun h => absurd h (by decide)
    · exact fun h => absurd h.1 hcmd
  · next hcmd =>
    have hcmd := not_not.mp hcmd
    split
    · next hstatus => exact ⟨fun _ => ⟨hcmd, .inl hstatus⟩, fun _ => rfl⟩
    · next hstatus =>
      rw [Int.natCast_eq_zero]
      exact ⟨fun h => ⟨hcmd, .inr h⟩, fun h => h.2.resolve_left hstatus⟩

/-- The status of a reply is none of the negative codes. -/
theorem commandReplyStatus_ne (req res : BceVhciMessage) :
    commandReplyStatus req res ≠ -ETIMEDOUT := by
  unfold commandReplyStatus
  split
  · decide
  · split
    · decide
    · have hcode : -ETIMEDOUT < 0 := by decide
      omega

theorem CommandExchange.finish_commandReplyStatus {x : CommandExchange} {res : BceVhciMessage} :
    x.finish res (commandReplyStatus x.req res) = 0 ↔ x.Accepts res := by
  unfold CommandExchange.finish CommandExchange.Accepts
  rw [← and_assoc, ← commandReplyStatus_eq_zero]
  have hcode := commandReplyStatus_ne x.req res
  cases x.cancel with
  | false => simp
  | true =>
    simp only [if_true, true_implies, if_neg hcode]
    split
    · next hbit => exact ⟨fun h => ⟨h, hbit⟩, fun h => h.1⟩
    · next hbit =>
      constructor
      · exact fun h => absurd h (by decide)
      · exact fun h => absurd h.2 hbit

/-- Without a reply no call returns 0. -/
theorem CommandExchange.finish_ne_zero {x : CommandExchange} {res : BceVhciMessage} {status : Int}
    (hstatus : status ≠ 0) : x.finish res status ≠ 0 := by
  have hcode : -ETIMEDOUT ≠ 0 := by decide
  unfold CommandExchange.finish
  split
  · split
    · exact hcode
    · split
      · exact hstatus
      · exact hcode
  · exact hstatus

theorem CommandExchange.not_accepts_abort (x : CommandExchange) : ¬x.Accepts abortMessage := by
  rintro ⟨-, hstatus, -⟩
  revert hstatus
  decide

/-- The reply to a cancellation is marked as cancelled. -/
theorem CommandSent.reply_cancelled {o : CommandSent} (h : o.msg.cmd &&& 0x4000 ≠ 0)
    (status param1 param2 : Nat) : (o.reply status param1 param2).cmd &&& 0x4000 ≠ 0 := by
  show (o.msg.cmd ||| 0x8000) &&& 0x4000 ≠ 0
  rw [Nat.and_or_distrib_right]
  simpa using h

/-! ## Places -/

/-- The exchange the thread is in. -/
def CommandThread.exchange? : CommandThread → Option CommandExchange
  | .reserving x | .registering x | .registered x | .writing x | .waiting x | .cleaning x
  | .cleaned x | .answered x => some x
  | _ => none

/-- The exchange whose wait can still be completed. -/
def CommandThread.awaits? : CommandThread → Option CommandExchange
  | .registered x | .writing x | .waiting x => some x
  | _ => none

/-- What the thread is to deliver. -/
def CommandThread.delivery? : CommandThread → Option CommandDelivery
  | .delivering d | .holding d => some d
  | _ => none

/-- The call that returns 0, or has done so. -/
def CommandThread.succeeded? : CommandThread → Option Nat
  | .unlocking call status | .returned call status => if status = 0 then some call else none
  | _ => none

theorem CommandThread.executing_of_exchange? {l : CommandThread} {x : CommandExchange}
    (h : l.exchange? = some x) : l.Executing := by
  cases l with
  | reserving | registering | registered | writing | waiting | cleaning | cleaned | answered =>
    trivial
  | _ => cases h

theorem CommandThread.exchange?_of_awaits? {l : CommandThread} {x : CommandExchange}
    (h : l.awaits? = some x) : l.exchange? = some x ∧ l.Awaiting := by
  cases l with
  | registered | writing | waiting => exact ⟨h, trivial⟩
  | _ => cases h

theorem CommandThread.succeeded?_of_awaiting {l : CommandThread} (h : l.Awaiting) :
    l.succeeded? = none := by
  cases l with
  | registered | writing | waiting | cleaning => rfl
  | _ => exact h.elim

/-- Without a reply the call does not return 0. -/
theorem CommandThread.succeeded?_finish (x : CommandExchange) (res : BceVhciMessage)
    {status : Int} (hstatus : status ≠ 0) :
    (CommandThread.unlocking x.call (x.finish res status)).succeeded? = none := by
  simp [CommandThread.succeeded?, CommandExchange.finish_ne_zero hstatus]

/-! ## The condition -/

section Condition

/-- The buffer that a delivery has written, and whose wait it is about to complete,
holds a reply to an earlier call that the exchange of the buffer accepts. -/
def StaleReply (s : Threads ι (BceVhciCommandQueue ι) CommandThread) : Prop :=
  ∃ j ∈ s.shared.result, ∃ x ∈ (s.thread j).awaits?, ∃ o ∈ s.shared.origin j,
    o.call < x.call ∧ x.Accepts (s.shared.res j)

instance (s : Threads ι (BceVhciCommandQueue ι) CommandThread) : Decidable (StaleReply s) :=
  inferInstanceAs (Decidable (∃ j ∈ s.shared.result, _))

/-- The device only replies, and no wait is completed with a stale reply. -/
def TimelyReply : ThreadAction ι CommandChoice Empty →
    Threads ι (BceVhciCommandQueue ι) CommandThread → Prop
  | .run _ (.deliver _), _ => False
  | .run i .next, s => (s.thread i).serving? = some false → ¬StaleReply s
  | _, _ => True

end Condition

/-! ## Assertions -/

/-- A message that was sent, after `calls` calls and `cancels` the last one that sent a
cancellation. -/
structure SentOk (calls cancels : Nat) (o : CommandSent) : Prop where
  call : o.call ≤ calls
  cancel : o.cancel = true → o.call ≤ cancels ∧ o.msg.cmd &&& 0x4000 ≠ 0

theorem SentOk.mono {calls calls' cancels cancels' : Nat} {o : CommandSent}
    (h : SentOk calls cancels o) (hcalls : calls ≤ calls') (hcancels : cancels ≤ cancels') :
    SentOk calls' cancels' o where
  call := h.call.trans hcalls
  cancel ho := ⟨(h.cancel ho).1.trans hcancels, (h.cancel ho).2⟩

/-- The exchange of the last call. -/
structure ExchangeOk (calls cancels : Nat) (x : CommandExchange) : Prop where
  call : x.call = calls
  request : x.cancel = false → cancels < calls
  cancellation : x.cancel = true → x.req.cmd &&& 0x4000 ≠ 0

/-- `msg` is a reply to `o`. -/
def CommandSent.RepliedBy (o : CommandSent) (msg : BceVhciMessage) : Prop :=
  ∃ status param1 param2, msg = o.reply status param1 param2

/-- If the exchange accepts what the buffer holds, it is no reply to an earlier call. -/
def Fresh (origin : Option CommandSent) (res : BceVhciMessage) (x : CommandExchange) : Prop :=
  x.Accepts res → ∃ o, origin = some o ∧ x.call ≤ o.call

/-- What holds of the queue. -/
structure BceVhciCommandQueue.RepliesOk (cq : BceVhciCommandQueue ι) : Prop where
  cancels : cq.cancels ≤ cq.calls
  unanswered : ∀ o ∈ cq.unanswered, SentOk cq.calls cq.cancels o
  buffers : ∀ i o, cq.origin i = some o →
    SentOk cq.calls cq.cancels o ∧ o.RepliedBy (cq.res i)

/-- What holds of a thread. -/
structure ReplyOk (i : ι) (cq : BceVhciCommandQueue ι) (l : CommandThread) : Prop where
  exchange : ∀ x, l.exchange? = some x → ExchangeOk cq.calls cq.cancels x
  aborted : ∀ d, l.delivery? = some d → d.owner = none → d.msg = abortMessage
  delivery : ∀ d o, l.delivery? = some d → d.owner = some o →
    SentOk cq.calls cq.cancels o ∧ o.RepliedBy d.msg
  written : ∀ x, l.awaits? = some x → (cq.exchanges, i) ∈ cq.writes → cq.origin i = none →
    cq.res i = abortMessage
  token : ∀ x, l.awaits? = some x → 0 < cq.completion → Fresh (cq.origin i) (cq.res i) x
  answered : ∀ x, l = .answered x → Fresh (cq.origin i) (cq.res i) x
  succeeded : ∀ call, l.succeeded? = some call →
    ∃ o, cq.origin i = some o ∧ o.call = call ∧ o.cancel = false

abbrev RepliesAsserted (s : Threads ι (BceVhciCommandQueue ι) CommandThread) : Prop :=
  ThreadProgram.Asserted BceVhciCommandQueue.RepliesOk ReplyOk (fun _ _ _ _ => True) s

section Moves

variable {i j : ι} {cq cq' : BceVhciCommandQueue ι} {l l' m : CommandThread}

/-- What the assertion on thread `i` reads is as it was. -/
structure SameReplies (i : ι) (cq cq' : BceVhciCommandQueue ι) : Prop where
  calls : cq'.calls = cq.calls
  cancels : cq'.cancels = cq.cancels
  exchanges : cq'.exchanges = cq.exchanges
  completion : cq'.completion = cq.completion
  writes : cq'.writes = cq.writes
  res : cq'.res i = cq.res i
  origin : cq'.origin i = cq.origin i

omit [DecidableEq ι] in
/-- The thread goes on in its exchange, or leaves it. -/
theorem ReplyOk.moved (h : ReplyOk i cq l) (hsame : SameReplies i cq cq')
    (hexchange : ∀ x, l'.exchange? = some x → l.exchange? = some x)
    (hdelivery : ∀ d, l'.delivery? = some d → l.delivery? = some d)
    (hawaits : ∀ x, l'.awaits? = some x → l.awaits? = some x)
    (hanswered : ∀ x, l' = .answered x → l = .answered x)
    (hsucceeded : ∀ call, l'.succeeded? = some call → l.succeeded? = some call) :
    ReplyOk i cq' l' := by
  obtain ⟨hcalls, hcancels, hexchanges, hcompletion, hwrites, hres, horigin⟩ := hsame
  constructor
  · rw [hcalls, hcancels]
    exact fun x hx => h.exchange x (hexchange x hx)
  · exact fun d hd => h.aborted d (hdelivery d hd)
  · rw [hcalls, hcancels]
    exact fun d o hd => h.delivery d o (hdelivery d hd)
  · rw [hexchanges, hwrites, horigin, hres]
    exact fun x hx => h.written x (hawaits x hx)
  · rw [hcompletion, horigin, hres]
    exact fun x hx => h.token x (hawaits x hx)
  · rw [horigin, hres]
    exact fun x hx => h.answered x (hanswered x hx)
  · rw [horigin]
    exact fun call hl => h.succeeded call (hsucceeded call hl)

omit [DecidableEq ι] in
/-- A thread at a place the assertion says nothing about. -/
theorem ReplyOk.nowhere (hexchange : l.exchange? = none) (hdelivery : l.delivery? = none)
    (hsucceeded : l.succeeded? = none) : ReplyOk i cq l := by
  have hawaits : ∀ x, l.awaits? ≠ some x := fun x hx =>
    absurd (hexchange.symm.trans (CommandThread.exchange?_of_awaits? hx).1) nofun
  constructor
  · exact fun x hx => absurd (hexchange.symm.trans hx) nofun
  · exact fun d hd => absurd (hdelivery.symm.trans hd) nofun
  · exact fun d o hd => absurd (hdelivery.symm.trans hd) nofun
  · exact fun x hx => absurd hx (hawaits x)
  · exact fun x hx => absurd hx (hawaits x)
  · rintro x rfl
    cases hexchange
  · exact fun call hl => absurd (hsucceeded.symm.trans hl) nofun

omit [DecidableEq ι] in
/-- A thread that begins an exchange. -/
theorem ReplyOk.reserving {x : CommandExchange} (hx : ExchangeOk cq.calls cq.cancels x) :
    ReplyOk i cq (.reserving x) := by
  refine ⟨?_, nofun, nofun, nofun, nofun, nofun, nofun⟩
  intro y hy
  obtain rfl := Option.some.inj hy
  exact hx

omit [DecidableEq ι] in
/-- A thread that is about to deliver a message. -/
theorem ReplyOk.delivering {d : CommandDelivery} (haborted : d.owner = none → d.msg = abortMessage)
    (hdelivery : ∀ o, d.owner = some o → SentOk cq.calls cq.cancels o ∧ o.RepliedBy d.msg) :
    ReplyOk i cq (.delivering d) := by
  refine ⟨nofun, ?_, ?_, nofun, nofun, nofun, nofun⟩
  · intro d' hd
    obtain rfl := Option.some.inj hd
    exact haborted
  · intro d' o hd
    obtain rfl := Option.some.inj hd
    exact hdelivery o

omit [DecidableEq ι] in
/-- A thread in no exchange, under a step of another that leaves its buffer alone. -/
theorem ReplyOk.outside (h : ReplyOk j cq m) (hout : ¬m.Executing)
    (hcalls : cq.calls ≤ cq'.calls) (hcancels : cq.cancels ≤ cq'.cancels)
    (horigin : cq'.origin j = cq.origin j) : ReplyOk j cq' m := by
  have hexchange : ∀ x, m.exchange? ≠ some x := fun x hx =>
    hout (CommandThread.executing_of_exchange? hx)
  have hawaits : ∀ x, m.awaits? ≠ some x := fun x hx =>
    hexchange x (CommandThread.exchange?_of_awaits? hx).1
  constructor
  · exact fun x hx => absurd hx (hexchange x)
  · exact h.aborted
  · intro d o hd ho
    obtain ⟨hsent, hreplied⟩ := h.delivery d o hd ho
    exact ⟨hsent.mono hcalls hcancels, hreplied⟩
  · exact fun x hx => absurd hx (hawaits x)
  · exact fun x hx => absurd hx (hawaits x)
  · rintro x rfl
    exact absurd trivial hout
  · rw [horigin]
    exact h.succeeded

omit [DecidableEq ι] in
/-- A reply that is accepted, and not to an earlier call, is the one to the request: the
reply to its cancellation comes only while that is awaited, and is marked. -/
theorem ReplyOk.own {x : CommandExchange} (h : ReplyOk i cq (.answered x)) (hcq : cq.RepliesOk)
    (haccepts : x.Accepts (cq.res i)) :
    ∃ o, cq.origin i = some o ∧ o.call = x.call ∧ o.cancel = false := by
  have hx := h.exchange x rfl
  obtain ⟨o, ho, hle⟩ := h.answered x rfl haccepts
  obtain ⟨hsent, status, param1, param2, hres⟩ := hcq.buffers i o ho
  have hcall : o.call = x.call := Nat.le_antisymm (hsent.call.trans hx.call.ge) hle
  refine ⟨o, ho, hcall, ?_⟩
  by_contra hcancel
  obtain ⟨hlast, hbit⟩ := hsent.cancel (Bool.eq_true_of_not_eq_false hcancel)
  cases hxc : x.cancel with
  | false =>
    have hlt := hx.request hxc
    rw [hcall, hx.call] at hlast
    omega
  | true =>
    have hmarked := haccepts.2.2 hxc
    rw [hres] at hmarked
    exact CommandSent.reply_cancelled hbit status param1 param2 hmarked

end Moves

/-! ## Every step keeps the assertions -/

section Keeps

variable {s : Threads ι (BceVhciCommandQueue ι) CommandThread} {i j : ι} {c : CommandChoice}
  {l₀ l : CommandThread} {cq : BceVhciCommandQueue ι}

/-- What holds of the queue. -/
theorem RepliesAsserted.ok (h : RepliesAsserted s) (hl : s.thread i = l₀)
    (heff : CommandStep i c l₀ l s.shared cq) : cq.RepliesOk := by
  obtain ⟨hcancels, hunanswered, hbuffers⟩ := h.shared
  have hi := h.thread i
  rw [hl] at hi
  cases heff with
  | execute =>
    refine ⟨hcancels, hunanswered, fun j o ho => ?_⟩
    by_cases hj : j = i
    · subst hj
      simp at ho
    · simp only [Function.update_of_ne hj] at ho ⊢
      exact hbuffers j o ho
  | reply _ hcons =>
    refine ⟨hcancels, fun o ho => hunanswered o ?_, hbuffers⟩
    rw [hcons]
    exact List.mem_cons_of_mem _ ho
  | acquire =>
    refine ⟨Nat.le_succ_of_le hcancels, fun o ho => ?_, fun j o ho => ?_⟩
    · exact (hunanswered o ho).mono (Nat.le_succ _) le_rfl
    · exact ⟨(hbuffers j o ho).1.mono (Nat.le_succ _) le_rfl, (hbuffers j o ho).2⟩
  | @send x _ =>
    have hx := hi.exchange x rfl
    have hgrow : s.shared.cancels ≤ if x.cancel then x.call else s.shared.cancels := by
      split
      · exact hcancels.trans hx.call.ge
      · exact le_rfl
    refine ⟨?_, fun o ho => ?_, fun j o ho => ?_⟩
    · show (if x.cancel then x.call else s.shared.cancels) ≤ s.shared.calls
      split
      · exact hx.call.le
      · exact hcancels
    · obtain ho | ho := List.mem_append.mp ho
      · exact (hunanswered o ho).mono le_rfl hgrow
      · obtain rfl := List.mem_singleton.mp ho
        refine ⟨hx.call.le, fun hcancel => ⟨?_, hx.cancellation hcancel⟩⟩
        rw [if_pos hcancel]
    · exact ⟨(hbuffers j o ho).1.mono le_rfl hgrow, (hbuffers j o ho).2⟩
  | @wrote d k _ hresult =>
    refine ⟨hcancels, hunanswered, fun j o ho => ?_⟩
    by_cases hj : j = k
    · subst hj
      simp only [Function.update_self] at ho ⊢
      exact hi.delivery d o rfl ho
    · simp only [Function.update_of_ne hj] at ho ⊢
      exact hbuffers j o ho
  | _ => exact ⟨hcancels, hunanswered, hbuffers⟩

/-- What holds of the thread that took the step. -/
theorem RepliesAsserted.self (h : RepliesAsserted s) (hs : CommandAsserted s)
    (hl : s.thread i = l₀) (hreply : ∀ msg, c ≠ .deliver msg)
    (heff : CommandStep i c l₀ l s.shared cq) : ReplyOk i cq l := by
  have hi := h.thread i
  have hci := hs.thread i
  rw [hl] at hi hci
  cases heff with
  | execute | missed | completed | cleared | join | joined => exact .nowhere rfl rfl rfl
  | wrote => exact .nowhere rfl rfl rfl
  | @released destroy _ =>
    cases destroy with
    | false | true => exact .nowhere rfl rfl rfl
  | @deliver _ msg destroy _ _ hdestroy =>
    -- the device only replies, so this is the abort of a teardown
    refine .delivering (fun _ => ?_) nofun
    cases destroy with
    | true => exact hdestroy
    | false => exact absurd hdestroy (hreply msg)
  | @reply _ o rest status param1 param2 _ _ hcons =>
    have ho : o ∈ s.shared.unanswered := by simp [hcons]
    refine .delivering nofun fun o' howner => ?_
    obtain rfl := Option.some.inj howner
    exact ⟨h.shared.unanswered o ho, status, param1, param2, rfl⟩
  | @acquire req _ _ =>
    exact .reserving ⟨rfl, fun _ => Nat.lt_succ_of_le h.shared.cancels, nofun⟩
  | reserve | timeout | clean =>
    exact hi.moved ⟨rfl, rfl, rfl, rfl, rfl, rfl, rfl⟩ (fun _ => id) nofun nofun nofun nofun
  | lock =>
    exact hi.moved ⟨rfl, rfl, rfl, rfl, rfl, rfl, rfl⟩ nofun (fun _ => id) nofun nofun nofun
  | registered =>
    exact hi.moved ⟨rfl, rfl, rfl, rfl, rfl, rfl, rfl⟩ (fun _ => id) nofun (fun _ => id) nofun nofun
  | @refuse x _ _ hstatus =>
    exact .nowhere rfl rfl (CommandThread.succeeded?_finish x _ hstatus)
  | @giveUp x =>
    exact .nowhere rfl rfl (CommandThread.succeeded?_finish x _ (by decide))
  | register =>
    constructor
    · exact hi.exchange
    · exact nofun
    · exact nofun
    · -- no delivery of this exchange is written yet
      exact fun x _ hw => absurd (hs.shared.past _ hw) (Nat.not_succ_le_self _)
    · exact nofun
    · exact nofun
    · exact nofun
  | @send x _ =>
    have hx := hi.exchange x rfl
    constructor
    · rintro y hy
      obtain rfl := Option.some.inj hy
      refine ⟨hx.call, fun hcancel => ?_, hx.cancellation⟩
      simpa [hcancel] using hx.request hcancel
    · exact nofun
    · exact nofun
    · exact hi.written
    · exact hi.token
    · exact nofun
    · exact nofun
  | @wake x _ htoken =>
    constructor
    · exact hi.exchange
    · exact nofun
    · exact nofun
    · exact nofun
    · exact nofun
    · rintro y hy
      cases hy
      exact hi.token x rfl htoken
    · exact nofun
  | @cancel x _ =>
    have hx := hi.exchange x rfl
    refine .reserving ⟨hx.call, nofun, fun _ => ?_⟩
    -- the cancellation is the request with bit 14 set
    show (x.req.cmd ||| 0x4000) &&& 0x4000 ≠ 0
    rw [Nat.and_or_distrib_right]
    simp
  | @answer x _ =>
    constructor
    · exact nofun
    · exact nofun
    · exact nofun
    · exact nofun
    · exact nofun
    · exact nofun
    · intro call hcall
      obtain ⟨hstatus, rfl⟩ : x.finish (s.shared.res i)
          (commandReplyStatus x.req (s.shared.res i)) = 0 ∧ x.call = call := by
        simpa [CommandThread.succeeded?] using hcall
      exact hi.own h.shared (CommandExchange.finish_commandReplyStatus.mp hstatus)
  | unlock =>
    exact hi.moved ⟨rfl, rfl, rfl, rfl, rfl, rfl, rfl⟩ nofun nofun nofun nofun fun _ => id

/-- What holds of the other threads. -/
theorem RepliesAsserted.other (h : RepliesAsserted s) (hs : CommandAsserted s)
    (hl : s.thread i = l₀) (hstale : c = .next → l₀.serving? = some false → ¬StaleReply s)
    (heff : CommandStep i c l₀ l s.shared cq) (hij : j ≠ i) : ReplyOk j cq (s.thread j) := by
  have hj := h.thread j
  have hi := h.thread i
  have hci := hs.thread i
  rw [hl] at hi hci
  -- only one thread is in an exchange
  have hone : ∀ {k}, s.shared.mutex = some k → j ≠ k → ¬(s.thread j).Executing :=
    fun hk hjk hjx => hjk (Option.some.inj (((hs.thread j).mutex.mp (.inl hjx)).symm.trans hk))
  cases heff with
  | deliver | reply | reserve | refuse | registered | timeout | clean | cancel | giveUp | answer
  | unlock | lock | missed | cleared | released | join | joined =>
    exact hj.moved ⟨rfl, rfl, rfl, rfl, rfl, rfl, rfl⟩ (fun _ => id) (fun _ => id) (fun _ => id)
      (fun _ => id) fun _ => id
  | execute =>
    exact hj.moved ⟨rfl, rfl, rfl, rfl, rfl, Function.update_of_ne hij ..,
      Function.update_of_ne hij ..⟩
      (fun _ => id) (fun _ => id) (fun _ => id) (fun _ => id) fun _ => id
  | acquire hfree =>
    refine hj.outside (fun hjx => ?_) (Nat.le_succ _) le_rfl rfl
    exact absurd (hfree.symm.trans ((hs.thread j).mutex.mp (.inl hjx))) nofun
  | register | wake =>
    exact hj.outside (hone (hs.mutex hl (.inl trivial)) hij) le_rfl le_rfl rfl
  | @send x _ =>
    refine hj.outside (hone (hs.mutex hl (.inl trivial)) hij) le_rfl ?_ rfl
    show s.shared.cancels ≤ if x.cancel then x.call else s.shared.cancels
    split
    · exact h.shared.cancels.trans (hi.exchange x rfl).call.ge
    · exact le_rfl
  | @wrote d k _ hresult =>
    obtain ⟨hlock, hserving⟩ := hs.lock hl trivial
    have hnone : s.shared.serving = none := hserving
    obtain ⟨hk, hmutex, hawaiting⟩ := hs.target (by rw [hnone]; exact nofun) hresult
    by_cases hjk : j = k
    · subst hjk
      constructor
      · exact hj.exchange
      · exact hj.aborted
      · exact hj.delivery
      · intro x _ _ horigin
        have hd : d.owner = none := by simpa using horigin
        show Function.update s.shared.res j d.msg j = _
        rw [Function.update_self]
        exact hi.aborted d rfl hd
      · -- there is no token while `result` is registered and nothing is written
        intro x _ htoken
        exact absurd (hnone.symm.trans ((hawaiting.token htoken).2 hresult)) nofun
      · intro x hx
        rw [hx] at hk
        exact hk.elim
      · intro call hcall
        rw [CommandThread.succeeded?_of_awaiting hk] at hcall
        cases hcall
    · exact hj.outside (hone hmutex hjk) le_rfl le_rfl (Function.update_of_ne hjk ..)
  | completed hnext =>
    have hserved : s.shared.serving = some false := (hs.lock hl trivial).2
    constructor
    · exact hj.exchange
    · exact hj.aborted
    · exact hj.delivery
    · exact hj.written
    · intro x hx _ haccepts
      obtain ⟨hexchange, hawaiting⟩ := CommandThread.exchange?_of_awaits? hx
      -- the buffer that was written is that of the one thread in an exchange
      obtain ⟨k, hk⟩ := Option.ne_none_iff_exists'.mp (hci.target nofun)
      obtain ⟨-, hmutex, hwritten⟩ := hs.target (by rw [hserved]; exact nofun) hk
      obtain rfl : j = k := by
        by_contra hjk
        exact hone hmutex hjk hawaiting.executing
      cases ho : s.shared.origin j with
      | none =>
        have habort := hj.written x hx (hwritten.written hk hserved) ho
        exact absurd (habort ▸ haccepts) x.not_accepts_abort
      | some o =>
        refine ⟨o, rfl, ?_⟩
        by_contra hlt
        exact hstale hnext rfl ⟨j, hk, x, hx, o, ho, Nat.lt_of_not_le hlt, haccepts⟩
    · exact hj.answered
    · exact hj.succeeded

/-- The assertions hold in every state reached without stale replies. -/
theorem replies_asserted (h : (commandProgram ι).system.Reachable TimelyReply s) :
    RepliesAsserted s := by
  refine ThreadProgram.invariant ?_ ?_ ?_ h
  · rintro cq ⟨mq, rfl⟩
    exact ⟨⟨le_rfl, nofun, nofun⟩, fun i => .nowhere rfl rfl rfl, fun _ _ => trivial⟩
  · intro s i c l cq hreach (hI : RepliesAsserted s) hguard hstep
    have hs : CommandAsserted s := command_asserted hreach
    have heff := commandRun_spec hstep
    have hreply : ∀ msg, c ≠ .deliver msg := by
      rintro msg rfl
      exact hguard
    have hstale : c = .next → (s.thread i).serving? = some false → ¬StaleReply s := by
      rintro rfl
      exact hguard
    exact ⟨hI.ok rfl heff, hI.self hs rfl hreply heff, fun j hij =>
      ⟨hI.other hs rfl hstale heff hij, trivial, trivial⟩⟩
  · intro _ e
    exact e.elim

/-- **A call that returns 0 has the reply to its own request** in its buffer, in every
run in which the device only replies and no wait is completed with a reply to an
earlier call that the exchange accepts. -/
theorem command_reply_to_request (hreach : (commandProgram ι).system.Reachable TimelyReply s)
    {call : Nat} (hreturned : s.thread i = .returned call 0) :
    ∃ o status param1 param2, s.shared.origin i = some o ∧ o.call = call ∧ o.cancel = false ∧
      s.shared.res i = o.reply status param1 param2 := by
  have hI := replies_asserted hreach
  obtain ⟨o, ho, hcall, hcancel⟩ := (hI.thread i).succeeded call (by rw [hreturned]; rfl)
  obtain ⟨-, status, param1, param2, hres⟩ := hI.shared.buffers i o ho
  exact ⟨o, status, param1, param2, ho, hcall, hcancel, hres⟩

end Keeps

/-! ## Runs -/

/-- The device only replies to what it is sent. -/
def DeviceReplies : ThreadAction ι CommandChoice Empty →
    Threads ι (BceVhciCommandQueue ι) CommandThread → Prop
  | .run _ (.deliver _), _ => False
  | _, _ => True

instance : ∀ a s, Decidable (DeviceReplies (ι := ι) a s)
  | .run _ (.deliver _), _ => .isFalse id
  | .run _ (.execute _ _), _ | .run _ (.reply _ _ _), _ | .run _ .destroy, _
  | .run _ (.reserved _), _ | .run _ .next, _ | .run _ .timeout, _ => .isTrue trivial

instance : ∀ a s, Decidable (TimelyReply (ι := ι) a s)
  | .run _ (.deliver _), _ => .isFalse id
  | .run i .next, s => inferInstanceAs (Decidable ((s.thread i).serving? = some false → _))
  | .run _ (.execute _ _), _ | .run _ (.reply _ _ _), _ | .run _ .destroy, _
  | .run _ (.reserved _), _ | .run _ .timeout, _ => .isTrue trivial

def BCE_VHCI_CMD_PORT_STATUS : Nat := 0x16

/-- Thread one asks for the status of port 1 and times out; the reply comes while the
cancellation is awaited. -/
def lateReply : List (ThreadAction TwoThreads CommandChoice Empty) :=
  [.run .one (.execute ⟨BCE_VHCI_CMD_PORT_STATUS, 0, 1, 0⟩ default), .run .one .next,
    .run .one (.reserved 0), .run .one .next, .run .one .next, .run .one .next, .run .one .timeout,
    .run .one .next, .run .one .next, .run .one (.reserved 0), .run .one .next, .run .one .next,
    .run .one .next, .run .two (.reply BCE_VHCI_SUCCESS 1 0x103), .run .two .next, .run .two .next,
    .run .two .next, .run .two .next, .run .two .next, .run .one .next, .run .one .next,
    .run .one .next]

def lateReplied : Threads TwoThreads (BceVhciCommandQueue TwoThreads) CommandThread :=
  (commandProgram TwoThreads).system.after TimelyReply lateReply
    (commandStart (bceVhciMessageQueueCreate 4 0x8000))

/-- The call returns 0 with the late reply. -/
theorem command_reply_to_request_of_a_late_reply :
    lateReplied.thread .one = .returned 1 0 ∧
      ∃ o status param1 param2, lateReplied.shared.origin .one = some o ∧ o.call = 1 ∧
        o.cancel = false ∧ lateReplied.shared.res .one = o.reply status param1 param2 := by
  have hreach : (commandProgram TwoThreads).system.Reachable TimelyReply lateReplied :=
    .after (.of_init ⟨⟨_, rfl⟩, fun _ => rfl⟩) (by decide +kernel)
  have hreturned : lateReplied.thread .one = .returned 1 0 := by decide +kernel
  exact ⟨hreturned, command_reply_to_request hreach hreturned⟩

/-- Then thread one asks for the status of port 2, and the reply to the cancellation
comes. -/
def staleReply : List (ThreadAction TwoThreads CommandChoice Empty) :=
  lateReply ++
    [.run .one (.execute ⟨BCE_VHCI_CMD_PORT_STATUS, 0, 2, 0⟩ default), .run .one .next,
      .run .one (.reserved 0), .run .one .next, .run .one .next, .run .one .next,
      .run .two (.reply BCE_VHCI_SUCCESS 1 0), .run .two .next, .run .two .next, .run .two .next,
      .run .two .next, .run .two .next, .run .one .next, .run .one .next, .run .one .next]

def staleReplied : Threads TwoThreads (BceVhciCommandQueue TwoThreads) CommandThread :=
  (commandProgram TwoThreads).system.after DeviceReplies staleReply
    (commandStart (bceVhciMessageQueueCreate 4 0x8000))

/-- The second call returns 0 with the reply to the cancellation of the first. -/
theorem reply_to_an_earlier_call :
    ¬∀ s, (commandProgram TwoThreads).system.Reachable DeviceReplies s →
      ∀ i call, s.thread i = .returned call 0 →
        ∃ o status param1 param2, s.shared.origin i = some o ∧ o.call = call ∧
          o.cancel = false ∧ s.shared.res i = o.reply status param1 param2 := by
  intro h
  have hreach : (commandProgram TwoThreads).system.Reachable DeviceReplies staleReplied :=
    .after (.of_init ⟨⟨_, rfl⟩, fun _ => rfl⟩) (by decide +kernel)
  obtain ⟨o, -, -, -, ho, hcall, -⟩ := h staleReplied hreach .one 2 (by decide +kernel)
  have horigin : staleReplied.shared.origin .one = some ⟨1, true, ⟨0x4016, 0, 1, 0⟩⟩ := by
    decide +kernel
  obtain rfl := Option.some.inj (horigin.symm.trans ho)
  cases hcall

end BceDriver
