import BceDriver.Vhci.CommandQueue

/-!
# Deliveries into the buffers of callers

- `CommandStep`: what a step does, one constructor for each.
- `CommandOk`: what holds of a thread. `completion.result` points to the buffer of
  a call in an exchange, until the delivery that holds `completion_lock` has
  completed its wait; a token is there for a waiter only after its buffer was
  written in its exchange.
- `command_deliveries`: the result, for every interleaving.
-/

namespace BceDriver

variable {ι : Type} [DecidableEq ι]

/-! ## What a step does -/

/-- The thread is in none of the calls. -/
def CommandThread.Free : CommandThread → Prop
  | .idle | .returned _ _ => True
  | _ => False

/-- A step of thread `i` with choice `c`. -/
inductive CommandStep (i : ι) (c : CommandChoice) : CommandThread → CommandThread →
    BceVhciCommandQueue ι → BceVhciCommandQueue ι → Prop where
  | execute {l : CommandThread} {req res : BceVhciMessage} {cq : BceVhciCommandQueue ι} :
      l.Free → CommandStep i c l (.acquiring req) cq { cq with
        res := Function.update cq.res i res
        origin := Function.update cq.origin i none }
  | deliver {l : CommandThread} {msg : BceVhciMessage} {destroy : Bool}
      {cq : BceVhciCommandQueue ι} : l.Free →
      (if destroy then msg = abortMessage else c = .deliver msg) →
      CommandStep i c l (.delivering ⟨msg, none, destroy⟩) cq cq
  | reply {l : CommandThread} {o : CommandSent} {rest : List CommandSent}
      {status param1 param2 : Nat} {cq : BceVhciCommandQueue ι} : l.Free →
      cq.unanswered = o :: rest →
      CommandStep i c l (.delivering ⟨o.reply status param1 param2, some o, false⟩) cq
        { cq with unanswered := rest }
  | acquire {req : BceVhciMessage} {cq : BceVhciCommandQueue ι} : cq.mutex = none →
      CommandStep i c (.acquiring req) (.reserving ⟨cq.calls + 1, req, false⟩) cq
        { cq with mutex := some i, calls := cq.calls + 1 }
  | reserve {x : CommandExchange} {cq : BceVhciCommandQueue ι} :
      CommandStep i c (.reserving x) (.registering x) cq cq
  | refuse {x : CommandExchange} {status : Int} {cq : BceVhciCommandQueue ι} : status ≠ 0 →
      CommandStep i c (.reserving x) (.unlocking x.call (x.finish (cq.res i) status)) cq cq
  | register {x : CommandExchange} {cq : BceVhciCommandQueue ι} : cq.completionLock = none →
      CommandStep i c (.registering x) (.registered x) cq { cq with
        completionLock := some i
        result := some i
        completion := 0
        exchanges := cq.exchanges + 1 }
  | registered {x : CommandExchange} {cq : BceVhciCommandQueue ι} :
      CommandStep i c (.registered x) (.writing x) cq cq.unlock
  | send {x : CommandExchange} {cq : BceVhciCommandQueue ι} :
      CommandStep i c (.writing x) (.waiting x) cq { cq with
        mq := bceVhciMessageQueueWrite cq.mq x.req
        sent := cq.sent + 1
        cancels := if x.cancel then x.call else cq.cancels
        unanswered := cq.unanswered ++ [⟨x.call, x.cancel, x.req⟩] }
  | wake {x : CommandExchange} {cq : BceVhciCommandQueue ι} : 0 < cq.completion →
      CommandStep i c (.waiting x) (.answered x) cq { cq with completion := cq.completion - 1 }
  | timeout {x : CommandExchange} {cq : BceVhciCommandQueue ι} :
      CommandStep i c (.waiting x) (.cleaning x) cq cq
  | clean {x : CommandExchange} {cq : BceVhciCommandQueue ι} : cq.completionLock = none →
      CommandStep i c (.cleaning x) (.cleaned x) cq
        { cq with completionLock := some i, result := none }
  | cancel {x : CommandExchange} {cq : BceVhciCommandQueue ι} :
      CommandStep i c (.cleaned x) (.reserving x.cancellation) cq cq.unlock
  | giveUp {x : CommandExchange} {cq : BceVhciCommandQueue ι} :
      CommandStep i c (.cleaned x) (.unlocking x.call (x.finish (cq.res i) (-ETIMEDOUT))) cq
        cq.unlock
  | answer {x : CommandExchange} {cq : BceVhciCommandQueue ι} :
      CommandStep i c (.answered x)
        (.unlocking x.call (x.finish (cq.res i) (commandReplyStatus x.req (cq.res i)))) cq cq
  | unlock {call : Nat} {status : Int} {cq : BceVhciCommandQueue ι} :
      CommandStep i c (.unlocking call status) (.returned call status) cq { cq with mutex := none }
  | lock {d : CommandDelivery} {cq : BceVhciCommandQueue ι} : cq.completionLock = none →
      CommandStep i c (.delivering d) (.holding d) cq { cq with completionLock := some i }
  | wrote {d : CommandDelivery} {j : ι} {cq : BceVhciCommandQueue ι} : cq.result = some j →
      CommandStep i c (.holding d) (.completing d.destroy) cq { cq with
        res := Function.update cq.res j d.msg
        origin := Function.update cq.origin j d.owner
        writes := cq.writes ++ [(cq.exchanges, j)]
        serving := some false }
  | missed {d : CommandDelivery} {cq : BceVhciCommandQueue ι} : cq.result = none →
      CommandStep i c (.holding d) (.releasing d.destroy) cq cq
  | completed {destroy : Bool} {cq : BceVhciCommandQueue ι} : c = .next →
      CommandStep i c (.completing destroy) (.clearing destroy) cq
        { cq with completion := cq.completion + 1, serving := some true }
  | cleared {destroy : Bool} {cq : BceVhciCommandQueue ι} :
      CommandStep i c (.clearing destroy) (.releasing destroy) cq
        { cq with result := none, serving := none }
  | released {destroy : Bool} {cq : BceVhciCommandQueue ι} :
      CommandStep i c (.releasing destroy) (if destroy then .joining else .idle) cq cq.unlock
  | join {cq : BceVhciCommandQueue ι} : cq.mutex = none →
      CommandStep i c .joining .joined cq { cq with mutex := some i }
  | joined {cq : BceVhciCommandQueue ι} :
      CommandStep i c .joined .idle cq { cq with mutex := none }

theorem commandCallStep_spec {i : ι} {c : CommandChoice} {l l' : CommandThread}
    {cq cq' : BceVhciCommandQueue ι} (hfree : l.Free)
    (hstep : commandCallStep i c cq = some (l', cq')) : CommandStep i c l l' cq cq' := by
  cases c with
  | execute req res =>
    cases hstep
    exact .execute hfree
  | deliver msg =>
    cases hstep
    exact .deliver hfree rfl
  | reply status param1 param2 =>
    simp only [commandCallStep] at hstep
    split at hstep
    · cases hstep
    · next hunanswered =>
      cases hstep
      exact .reply hfree hunanswered
  | destroy =>
    cases hstep
    exact .deliver hfree rfl
  | reserved | next | timeout => cases hstep

omit [DecidableEq ι] in
theorem BceVhciCommandQueue.lock_some {i : ι} {cq cq' : BceVhciCommandQueue ι}
    (h : cq.lock i = some cq') :
    cq.completionLock = none ∧ cq' = { cq with completionLock := some i } := by
  unfold BceVhciCommandQueue.lock at h
  split at h
  · next hfree =>
    cases h
    exact ⟨hfree, rfl⟩
  · cases h

theorem commandRun_spec {i : ι} {c : CommandChoice} {l l' : CommandThread}
    {cq cq' : BceVhciCommandQueue ι} (hstep : commandRun i c l cq = some (l', cq')) :
    CommandStep i c l l' cq cq' := by
  cases l with
  | idle => exact commandCallStep_spec trivial (by simpa [commandRun] using hstep)
  | returned call status => exact commandCallStep_spec trivial (by simpa [commandRun] using hstep)
  | reserving x =>
    cases c with
    | reserved status =>
      simp only [commandRun, Option.some.injEq, Prod.mk.injEq] at hstep
      obtain ⟨rfl, rfl⟩ := hstep
      by_cases hstatus : status = 0
      · rw [if_pos hstatus]
        exact .reserve
      · rw [if_neg hstatus]
        exact .refuse hstatus
    | execute | deliver | reply | destroy | next | timeout => cases hstep
  | waiting x =>
    cases c with
    | next =>
      simp only [commandRun] at hstep
      split at hstep
      · next htoken =>
        cases hstep
        exact .wake htoken
      · cases hstep
    | timeout =>
      simp only [commandRun] at hstep
      split at hstep
      · cases hstep
        exact .timeout
      · cases hstep
    | execute | deliver | reply | destroy | reserved => cases hstep
  | acquiring req =>
    cases c with
    | next =>
      simp only [commandRun] at hstep
      split at hstep
      · next hfree =>
        cases hstep
        exact .acquire hfree
      · cases hstep
    | execute | deliver | reply | destroy | reserved | timeout => cases hstep
  | registering x =>
    cases c with
    | next =>
      obtain ⟨cq₁, hlock, heq⟩ := Option.map_eq_some_iff.mp hstep
      cases heq
      obtain ⟨hfree, rfl⟩ := BceVhciCommandQueue.lock_some hlock
      exact .register hfree
    | execute | deliver | reply | destroy | reserved | timeout => cases hstep
  | registered x =>
    cases c with
    | next =>
      cases hstep
      exact .registered
    | execute | deliver | reply | destroy | reserved | timeout => cases hstep
  | writing x =>
    cases c with
    | next =>
      cases hstep
      exact .send
    | execute | deliver | reply | destroy | reserved | timeout => cases hstep
  | cleaning x =>
    cases c with
    | next =>
      obtain ⟨cq₁, hlock, heq⟩ := Option.map_eq_some_iff.mp hstep
      cases heq
      obtain ⟨hfree, rfl⟩ := BceVhciCommandQueue.lock_some hlock
      exact .clean hfree
    | execute | deliver | reply | destroy | reserved | timeout => cases hstep
  | cleaned x =>
    cases c with
    | next =>
      simp only [commandRun, Option.some.injEq, Prod.mk.injEq] at hstep
      obtain ⟨rfl, rfl⟩ := hstep
      split
      · exact .cancel
      · exact .giveUp
    | execute | deliver | reply | destroy | reserved | timeout => cases hstep
  | answered x =>
    cases c with
    | next =>
      cases hstep
      exact .answer
    | execute | deliver | reply | destroy | reserved | timeout => cases hstep
  | unlocking call status =>
    cases c with
    | next =>
      cases hstep
      exact .unlock
    | execute | deliver | reply | destroy | reserved | timeout => cases hstep
  | delivering d =>
    cases c with
    | next =>
      obtain ⟨cq₁, hlock, heq⟩ := Option.map_eq_some_iff.mp hstep
      cases heq
      obtain ⟨hfree, rfl⟩ := BceVhciCommandQueue.lock_some hlock
      exact .lock hfree
    | execute | deliver | reply | destroy | reserved | timeout => cases hstep
  | holding d =>
    cases c with
    | next =>
      simp only [commandRun] at hstep
      split at hstep
      · next j hresult =>
        cases hstep
        exact .wrote hresult
      · next hresult =>
        cases hstep
        exact .missed hresult
    | execute | deliver | reply | destroy | reserved | timeout => cases hstep
  | completing destroy =>
    cases c with
    | next =>
      cases hstep
      exact .completed rfl
    | execute | deliver | reply | destroy | reserved | timeout => cases hstep
  | clearing destroy =>
    cases c with
    | next =>
      cases hstep
      exact .cleared
    | execute | deliver | reply | destroy | reserved | timeout => cases hstep
  | releasing destroy =>
    cases c with
    | next =>
      cases hstep
      exact .released
    | execute | deliver | reply | destroy | reserved | timeout => cases hstep
  | joining =>
    cases c with
    | next =>
      simp only [commandRun] at hstep
      split at hstep
      · next hfree =>
        cases hstep
        exact .join hfree
      · cases hstep
    | execute | deliver | reply | destroy | reserved | timeout => cases hstep
  | joined =>
    cases c with
    | next =>
      cases hstep
      exact .joined
    | execute | deliver | reply | destroy | reserved | timeout => cases hstep

/-! ## Places -/

/-- The thread is in `bce_vhci_command_queue_execute` and holds the mutex. -/
def CommandThread.Executing : CommandThread → Prop
  | .reserving _ | .registering _ | .registered _ | .writing _ | .waiting _ | .cleaning _
  | .cleaned _ | .answered _ | .unlocking _ _ => True
  | _ => False

instance : DecidablePred CommandThread.Executing
  | .reserving _ | .registering _ | .registered _ | .writing _ | .waiting _ | .cleaning _
  | .cleaned _ | .answered _ | .unlocking _ _ => .isTrue trivial
  | .idle | .acquiring _ | .returned _ _ | .delivering _ | .holding _ | .completing _
  | .clearing _ | .releasing _ | .joining | .joined => .isFalse id

def CommandThread.HoldsMutex (l : CommandThread) : Prop :=
  l.Executing ∨ l = .joined

/-- The thread holds `completion_lock`. -/
def CommandThread.HoldsLock : CommandThread → Prop
  | .registered _ | .cleaned _ | .holding _ | .completing _ | .clearing _ | .releasing _ => True
  | _ => False

/-- The thread's buffer is registered, as far as the thread knows. -/
def CommandThread.Awaiting : CommandThread → Prop
  | .registered _ | .writing _ | .waiting _ | .cleaning _ => True
  | _ => False

/-- The message of a registered exchange that is yet to be sent. -/
def CommandThread.unsent : CommandThread → Nat
  | .registered _ | .writing _ => 1
  | _ => 0

/-- How far the delivery of the thread is. -/
def CommandThread.serving? : CommandThread → Option Bool
  | .completing _ => some false
  | .clearing _ => some true
  | _ => none

theorem CommandThread.Awaiting.executing {l : CommandThread} (h : l.Awaiting) : l.Executing := by
  cases l with
  | registered | writing | waiting | cleaning => trivial
  | _ => exact h.elim

theorem CommandThread.holdsLock_of_serving? {l : CommandThread} (h : l.serving? ≠ none) :
    l.HoldsLock := by
  cases l with
  | completing | clearing => trivial
  | _ => exact absurd rfl h

theorem CommandThread.Free.outside {l : CommandThread} (h : l.Free) :
    ¬l.HoldsMutex ∧ ¬l.HoldsLock ∧ ¬l.Awaiting := by
  cases l with
  | idle | returned =>
    refine ⟨?_, id, id⟩
    rintro (hexecuting | hjoined)
    · exact hexecuting
    · cases hjoined
  | _ => exact h.elim

/-! ## Assertions -/

/-- What holds of the queue. -/
structure BceVhciCommandQueue.Ok (cq : BceVhciCommandQueue ι) : Prop where
  unserved : cq.completionLock = none → cq.serving = none
  sent : cq.mutex = none → cq.exchanges = cq.sent
  once : (cq.writes.map Prod.fst).Nodup
  past : ∀ w ∈ cq.writes, w.1 ≤ cq.exchanges

/-- What holds while the buffer of thread `i` is registered. -/
structure AwaitingOk (i : ι) (cq : BceVhciCommandQueue ι) : Prop where
  fresh : cq.result = some i → cq.serving = none → ∀ w ∈ cq.writes, w.1 ≠ cq.exchanges
  written : cq.result = some i → cq.serving = some false → (cq.exchanges, i) ∈ cq.writes
  token : 0 < cq.completion →
    (cq.exchanges, i) ∈ cq.writes ∧ (cq.result = some i → cq.serving = some true)

/-- What holds of a thread. -/
structure CommandOk (i : ι) (cq : BceVhciCommandQueue ι) (l : CommandThread) : Prop where
  mutex : l.HoldsMutex ↔ cq.mutex = some i
  lock : l.HoldsLock ↔ cq.completionLock = some i
  serving : l.HoldsLock → cq.serving = l.serving?
  target : l.serving? ≠ none → cq.result ≠ none
  result : cq.result = some i → cq.serving = some true ∨ l.Awaiting
  awaiting : l.Awaiting → AwaitingOk i cq
  answered : ∀ x, l = .answered x → (cq.exchanges, i) ∈ cq.writes
  sent : l.HoldsMutex → cq.exchanges = cq.sent + l.unsent

abbrev CommandAsserted (s : Threads ι (BceVhciCommandQueue ι) CommandThread) : Prop :=
  ThreadProgram.Asserted BceVhciCommandQueue.Ok CommandOk (fun _ _ _ _ => True) s

/-! ## The other threads -/

section Others

variable {i j : ι} {cq cq' : BceVhciCommandQueue ι} {l l' m : CommandThread}

/-- What the assertions read, apart from the mutex and the lock, is as it was. -/
structure SameExchange (cq cq' : BceVhciCommandQueue ι) : Prop where
  result : cq'.result = cq.result
  serving : cq'.serving = cq.serving
  completion : cq'.completion = cq.completion
  exchanges : cq'.exchanges = cq.exchanges
  sent : cq'.sent = cq.sent
  writes : cq'.writes = cq.writes

omit [DecidableEq ι] in
theorem AwaitingOk.same (h : AwaitingOk i cq) (hsame : SameExchange cq cq') : AwaitingOk i cq' := by
  obtain ⟨hresult, hserving, hcompletion, hexchanges, -, hwrites⟩ := hsame
  constructor
  · rw [hresult, hserving, hwrites, hexchanges]
    exact h.fresh
  · rw [hresult, hserving, hwrites, hexchanges]
    exact h.written
  · rw [hcompletion, hresult, hserving, hwrites, hexchanges]
    exact h.token

omit [DecidableEq ι] in
/-- A thread that moves without touching the exchange. -/
theorem CommandOk.moved (h : CommandOk i cq l) (hsame : SameExchange cq cq')
    (hmutex : l'.HoldsMutex ↔ cq'.mutex = some i)
    (hlock : l'.HoldsLock ↔ cq'.completionLock = some i)
    (hserving : l'.HoldsLock → cq.serving = l'.serving?)
    (htarget : l'.serving? ≠ none → l.serving? ≠ none)
    (hresult : l.Awaiting → l'.Awaiting) (hawaiting : l'.Awaiting → l.Awaiting)
    (hanswered : ∀ x, l' = .answered x → l = .answered x)
    (hsent : l'.HoldsMutex → cq.exchanges = cq.sent + l'.unsent) : CommandOk i cq' l' where
  mutex := hmutex
  lock := hlock
  serving hl := hsame.serving.trans (hserving hl)
  target hl := by
    rw [hsame.result]
    exact h.target (htarget hl)
  result hr := by
    rw [hsame.serving]
    rw [hsame.result] at hr
    exact (h.result hr).imp_right hresult
  awaiting hl := (h.awaiting (hawaiting hl)).same hsame
  answered x hl := by
    rw [hsame.exchanges, hsame.writes]
    exact h.answered x (hanswered x hl)
  sent hl := by
    rw [hsame.exchanges, hsame.sent]
    exact hsent hl

omit [DecidableEq ι] in
/-- A thread that moves on in its call, between two critical sections. -/
theorem CommandOk.inside (h : CommandOk i cq l) (hsame : SameExchange cq cq')
    (hl : l'.HoldsMutex) (hout : ¬l'.HoldsLock) (hmutex : cq'.mutex = some i)
    (hlock : cq'.completionLock ≠ some i) (hawaiting : l.Awaiting ↔ l'.Awaiting)
    (hanswered : ∀ x, l' ≠ .answered x) (hsent : cq.exchanges = cq.sent + l'.unsent) :
    CommandOk i cq' l' :=
  h.moved hsame ⟨fun _ => hmutex, fun _ => hl⟩
    ⟨fun hm => absurd hm hout, fun ho => absurd ho hlock⟩ (fun hm => absurd hm hout)
    (fun hs => absurd (CommandThread.holdsLock_of_serving? hs) hout) hawaiting.mp hawaiting.mpr
    (fun x hx => absurd hx (hanswered x)) fun _ => hsent

omit [DecidableEq ι] in
/-- A thread that moves to where it holds neither the mutex nor the lock. -/
theorem CommandOk.outer (h : CommandOk i cq l) (hsame : SameExchange cq cq')
    (hleft : ¬l'.HoldsMutex) (hout : ¬l'.HoldsLock) (hmutex : cq'.mutex ≠ some i)
    (hlock : cq'.completionLock ≠ some i) (hawaiting : ¬l.Awaiting) : CommandOk i cq' l' := by
  refine h.moved hsame ⟨fun hm => absurd hm hleft, fun ho => absurd ho hmutex⟩
    ⟨fun hm => absurd hm hout, fun ho => absurd ho hlock⟩ (fun hm => absurd hm hout)
    (fun hs => absurd (CommandThread.holdsLock_of_serving? hs) hout)
    (fun ha => absurd ha hawaiting) (fun ha => absurd (.inl ha.executing) hleft) ?_
    fun hm => absurd hm hleft
  rintro x rfl
  exact absurd (.inl trivial) hleft

omit [DecidableEq ι] in
/-- A thread that delivers a message, which is in no exchange of its own. -/
theorem CommandOk.delivering (hl : l.HoldsLock) (hout : ¬l.HoldsMutex) (hmutex : cq.mutex ≠ some i)
    (hlock : cq.completionLock = some i) (hserving : cq.serving = l.serving?)
    (htarget : l.serving? ≠ none → cq.result ≠ none)
    (hresult : cq.result = some i → cq.serving = some true) : CommandOk i cq l where
  mutex := ⟨fun hm => absurd hm hout, fun ho => absurd ho hmutex⟩
  lock := ⟨fun _ => hlock, fun _ => hl⟩
  serving _ := hserving
  target := htarget
  result hr := .inl (hresult hr)
  awaiting ha := absurd (.inl ha.executing) hout
  answered x hx := by
    rw [hx] at hl
    exact hl.elim
  sent hm := absurd hm hout

omit [DecidableEq ι] in
/-- A thread under a step of another that does not touch the exchange. -/
theorem CommandOk.same (h : CommandOk j cq m) (hsame : SameExchange cq cq')
    (hmutex : cq'.mutex = some j ↔ cq.mutex = some j)
    (hlock : cq'.completionLock = some j ↔ cq.completionLock = some j) : CommandOk j cq' m :=
  h.moved hsame (h.mutex.trans hmutex.symm) (h.lock.trans hlock.symm) h.serving id id id
    (fun _ => id) h.sent

omit [DecidableEq ι] in
/-- A thread that has not the mutex, under a step of the one that has. -/
theorem CommandOk.outside (h : CommandOk j cq m) (hij : j ≠ i) (hi : cq.mutex = some i)
    (hmutex : cq'.mutex = cq.mutex)
    (hlock : cq'.completionLock = some j ↔ cq.completionLock = some j)
    (hserving : cq'.serving = cq.serving)
    (htarget : m.serving? ≠ none → cq'.result ≠ none)
    (hresult : cq'.result = some j → cq.result = some j) : CommandOk j cq' m := by
  have hout : ¬m.HoldsMutex := fun hm => hij (Option.some.inj ((h.mutex.mp hm).symm.trans hi))
  constructor
  · rw [hmutex]
    exact h.mutex
  · exact h.lock.trans hlock.symm
  · rw [hserving]
    exact h.serving
  · exact htarget
  · rw [hserving]
    exact fun hr => h.result (hresult hr)
  · exact fun hm => absurd (.inl hm.executing) hout
  · rintro x rfl
    exact absurd (.inl trivial) hout
  · exact fun hm => absurd hm hout

omit [DecidableEq ι] in
/-- A thread that has not the lock, under a step of the delivery that has. -/
theorem CommandOk.under (h : CommandOk j cq m) (hij : j ≠ i) (hi : cq.completionLock = some i)
    (hmutex : cq'.mutex = cq.mutex) (hlock : cq'.completionLock = cq.completionLock)
    (hresult : cq'.result = some j → cq'.serving = some true ∨ m.Awaiting)
    (hawaiting : m.Awaiting → AwaitingOk j cq → AwaitingOk j cq')
    (hexchanges : cq'.exchanges = cq.exchanges) (hwrites : ∀ w ∈ cq.writes, w ∈ cq'.writes)
    (hsent : cq'.sent = cq.sent) : CommandOk j cq' m := by
  have hout : ¬m.HoldsLock := fun hm => hij (Option.some.inj ((h.lock.mp hm).symm.trans hi))
  constructor
  · rw [hmutex]
    exact h.mutex
  · rw [hlock]
    exact h.lock
  · exact fun hm => absurd hm hout
  · exact fun hm => absurd (CommandThread.holdsLock_of_serving? hm) hout
  · exact hresult
  · exact fun hm => hawaiting hm (h.awaiting hm)
  · rw [hexchanges]
    exact fun x hm => hwrites _ (h.answered x hm)
  · rw [hexchanges, hsent]
    exact h.sent

end Others

/-! ## Every step keeps the assertions -/

section Keeps

variable {s : Threads ι (BceVhciCommandQueue ι) CommandThread} {i j : ι} {c : CommandChoice}
  {l₀ l : CommandThread} {cq : BceVhciCommandQueue ι}

omit [DecidableEq ι] in
theorem CommandAsserted.mutex (h : CommandAsserted s) (hl : s.thread i = l₀)
    (hm : l₀.HoldsMutex) : s.shared.mutex = some i := by
  subst hl
  exact (h.thread i).mutex.mp hm

omit [DecidableEq ι] in
theorem CommandAsserted.lock (h : CommandAsserted s) (hl : s.thread i = l₀)
    (hm : l₀.HoldsLock) : s.shared.completionLock = some i ∧ s.shared.serving = l₀.serving? := by
  subst hl
  exact ⟨(h.thread i).lock.mp hm, (h.thread i).serving hm⟩

omit [DecidableEq ι] in
/-- The thread whose buffer is registered is in its exchange, as long as its wait is
not completed. -/
theorem CommandAsserted.target (h : CommandAsserted s) (hserving : s.shared.serving ≠ some true)
    (hresult : s.shared.result = some j) :
    (s.thread j).Awaiting ∧ s.shared.mutex = some j ∧ AwaitingOk j s.shared := by
  have hawaiting := ((h.thread j).result hresult).resolve_left hserving
  exact ⟨hawaiting, (h.thread j).mutex.mp (.inl hawaiting.executing),
    (h.thread j).awaiting hawaiting⟩

/-- What holds of the queue. -/
theorem CommandAsserted.ok (h : CommandAsserted s) (hl : s.thread i = l₀)
    (heff : CommandStep i c l₀ l s.shared cq) : cq.Ok := by
  obtain ⟨hunserved, hsent, honce, hpast⟩ := h.shared
  have hi := h.thread i
  rw [hl] at hi
  cases heff with
  | execute | deliver | reply | reserve | refuse | wake | timeout | answer | missed =>
    exact ⟨hunserved, hsent, honce, hpast⟩
  | acquire | join => exact ⟨hunserved, nofun, honce, hpast⟩
  | register =>
    have hmutex := h.mutex hl (.inl trivial)
    exact ⟨nofun, fun hfree => absurd (hmutex.symm.trans hfree) nofun, honce,
      fun w hw => Nat.le_succ_of_le (hpast w hw)⟩
  | registered | cancel | giveUp =>
    have hserving := (h.lock hl trivial).2
    exact ⟨fun _ => hserving, hsent, honce, hpast⟩
  | released =>
    have hserving := (h.lock hl trivial).2
    exact ⟨fun _ => hserving, hsent, honce, hpast⟩
  | send =>
    have hmutex := h.mutex hl (.inl trivial)
    exact ⟨hunserved, fun hfree => absurd (hmutex.symm.trans hfree) nofun, honce, hpast⟩
  | clean => exact ⟨nofun, hsent, honce, hpast⟩
  | unlock => exact ⟨hunserved, fun _ => hi.sent (.inl trivial), honce, hpast⟩
  | joined => exact ⟨hunserved, fun _ => hi.sent (.inr rfl), honce, hpast⟩
  | lock => exact ⟨nofun, hsent, honce, hpast⟩
  | @wrote d k _ hresult =>
    obtain ⟨hlock, hserving⟩ := h.lock hl trivial
    have hnone : s.shared.serving = none := hserving
    obtain ⟨-, -, hawaiting⟩ := h.target (by rw [hnone]; exact nofun) hresult
    -- nothing was written in this exchange before
    refine ⟨fun hfree => absurd (hlock.symm.trans hfree) nofun, hsent, ?_, ?_⟩
    · rw [List.map_append]
      refine List.Nodup.append honce (by simp) ?_
      intro e he he'
      obtain ⟨w, hw, rfl⟩ := List.mem_map.mp he
      exact hawaiting.fresh hresult hnone w hw (by simpa using he')
    · intro w hw
      obtain hw | hw := List.mem_append.mp hw
      · exact hpast w hw
      · rw [List.mem_singleton.mp hw]
  | completed =>
    obtain ⟨hlock, -⟩ := h.lock hl trivial
    exact ⟨fun hfree => absurd (hlock.symm.trans hfree) nofun, hsent, honce, hpast⟩
  | cleared => exact ⟨fun _ => rfl, hsent, honce, hpast⟩

/-- What holds of the thread that took the step. -/
theorem CommandAsserted.self (h : CommandAsserted s) (hl : s.thread i = l₀)
    (heff : CommandStep i c l₀ l s.shared cq) : CommandOk i cq l := by
  have hi := h.thread i
  rw [hl] at hi
  cases heff with
  | execute hfree | deliver hfree | reply hfree =>
    obtain ⟨hmutex, hlock, hawaiting⟩ := hfree.outside
    exact hi.outer ⟨rfl, rfl, rfl, rfl, rfl, rfl⟩ nofun id (fun ho => hmutex (hi.mutex.mpr ho))
      (fun ho => hlock (hi.lock.mpr ho)) hawaiting
  | acquire hfree =>
    exact hi.inside ⟨rfl, rfl, rfl, rfl, rfl, rfl⟩ (.inl trivial) id rfl hi.lock.mpr Iff.rfl nofun
      (h.shared.sent hfree)
  | reserve | refuse =>
    have hmutex := h.mutex hl (.inl trivial)
    exact hi.inside ⟨rfl, rfl, rfl, rfl, rfl, rfl⟩ (.inl trivial) id hmutex hi.lock.mpr Iff.rfl
      nofun (hi.sent (.inl trivial))
  | register hfree =>
    have hmutex := h.mutex hl (.inl trivial)
    have hserving := h.shared.unserved hfree
    constructor
    · exact ⟨fun _ => hmutex, fun _ => .inl trivial⟩
    · exact ⟨fun _ => rfl, fun _ => trivial⟩
    · exact fun _ => hserving
    · exact fun hs => absurd rfl hs
    · exact fun _ => .inr trivial
    · -- the exchange is new, and no token of an older one is left
      refine fun _ => ⟨fun _ _ w hw => ?_, fun _ hs => ?_, nofun⟩
      · exact Nat.ne_of_lt (Nat.lt_succ_of_le (h.shared.past w hw))
      · exact absurd (hserving.symm.trans hs) nofun
    · exact nofun
    · exact fun _ => congrArg Nat.succ (hi.sent (.inl trivial))
  | registered =>
    have hmutex := h.mutex hl (.inl trivial)
    exact hi.inside ⟨rfl, rfl, rfl, rfl, rfl, rfl⟩ (.inl trivial) id hmutex nofun Iff.rfl nofun
      (hi.sent (.inl trivial))
  | send =>
    have hmutex := h.mutex hl (.inl trivial)
    have hawaiting := hi.awaiting trivial
    constructor
    · exact ⟨fun _ => hmutex, fun _ => .inl trivial⟩
    · exact hi.lock
    · exact False.elim
    · exact fun hs => absurd rfl hs
    · exact fun _ => .inr trivial
    · exact fun _ => ⟨hawaiting.fresh, hawaiting.written, hawaiting.token⟩
    · exact nofun
    · exact fun _ => hi.sent (.inl trivial)
  | wake htoken =>
    have hmutex := h.mutex hl (.inl trivial)
    -- the token was left after the buffer was written
    obtain ⟨hwritten, hserved⟩ := (hi.awaiting trivial).token htoken
    constructor
    · exact ⟨fun _ => hmutex, fun _ => .inl trivial⟩
    · exact hi.lock
    · exact False.elim
    · exact fun hs => absurd rfl hs
    · exact fun hr => .inl (hserved hr)
    · exact False.elim
    · exact fun _ _ => hwritten
    · exact fun _ => hi.sent (.inl trivial)
  | timeout =>
    have hmutex := h.mutex hl (.inl trivial)
    exact hi.inside ⟨rfl, rfl, rfl, rfl, rfl, rfl⟩ (.inl trivial) id hmutex hi.lock.mpr Iff.rfl
      nofun (hi.sent (.inl trivial))
  | clean hfree =>
    have hmutex := h.mutex hl (.inl trivial)
    constructor
    · exact ⟨fun _ => hmutex, fun _ => .inl trivial⟩
    · exact ⟨fun _ => rfl, fun _ => trivial⟩
    · exact fun _ => h.shared.unserved hfree
    · exact fun hs => absurd rfl hs
    · exact nofun
    · exact False.elim
    · exact nofun
    · exact fun _ => hi.sent (.inl trivial)
  | cancel | giveUp =>
    have hmutex := h.mutex hl (.inl trivial)
    exact hi.inside ⟨rfl, rfl, rfl, rfl, rfl, rfl⟩ (.inl trivial) id hmutex nofun Iff.rfl nofun
      (hi.sent (.inl trivial))
  | answer =>
    have hmutex := h.mutex hl (.inl trivial)
    exact hi.inside ⟨rfl, rfl, rfl, rfl, rfl, rfl⟩ (.inl trivial) id hmutex hi.lock.mpr Iff.rfl
      nofun (hi.sent (.inl trivial))
  | unlock | joined =>
    exact hi.outer ⟨rfl, rfl, rfl, rfl, rfl, rfl⟩ nofun id nofun hi.lock.mpr id
  | lock hfree =>
    refine hi.moved ⟨rfl, rfl, rfl, rfl, rfl, rfl⟩
      ⟨fun hm => absurd hm nofun, fun ho => absurd (hi.mutex.mpr ho) nofun⟩
      ⟨fun _ => rfl, fun _ => trivial⟩ (fun _ => h.shared.unserved hfree) (fun hs => absurd rfl hs)
      False.elim False.elim nofun fun hm => absurd hm nofun
  | @wrote d k _ hresult =>
    obtain ⟨hlock, hserving⟩ := h.lock hl trivial
    refine .delivering trivial nofun (fun ho => absurd (hi.mutex.mpr ho) nofun) hlock rfl
      (fun _ => by simp [hresult]) fun hr => ?_
    -- the buffer is not the deliverer's own: it is in no exchange
    obtain hs | ha := hi.result hr
    · exact absurd (hserving.symm.trans hs) nofun
    · exact ha.elim
  | missed hresult =>
    obtain ⟨hlock, hserving⟩ := h.lock hl trivial
    exact hi.moved ⟨rfl, rfl, rfl, rfl, rfl, rfl⟩
      ⟨fun hm => absurd hm nofun, fun ho => absurd (hi.mutex.mpr ho) nofun⟩
      ⟨fun _ => hlock, fun _ => trivial⟩ (fun _ => hserving) (fun hs => absurd rfl hs)
      False.elim False.elim nofun fun hm => absurd hm nofun
  | completed =>
    have hlock := (h.lock hl trivial).1
    exact .delivering trivial nofun (fun ho => absurd (hi.mutex.mpr ho) nofun) hlock rfl
      (fun _ => hi.target nofun) fun _ => rfl
  | cleared =>
    have hlock := (h.lock hl trivial).1
    exact .delivering trivial nofun (fun ho => absurd (hi.mutex.mpr ho) nofun) hlock rfl
      (fun hs => absurd rfl hs) nofun
  | @released destroy _ =>
    have hmutex : s.shared.mutex ≠ some i := fun ho => absurd (hi.mutex.mpr ho) nofun
    cases destroy with
    | false | true =>
      exact hi.outer ⟨rfl, rfl, rfl, rfl, rfl, rfl⟩ nofun id hmutex nofun id
  | join hfree =>
    exact hi.inside ⟨rfl, rfl, rfl, rfl, rfl, rfl⟩ (.inr rfl) id rfl hi.lock.mpr Iff.rfl nofun
      (h.shared.sent hfree)

/-- What holds of the other threads. -/
theorem CommandAsserted.other (h : CommandAsserted s) (hl : s.thread i = l₀)
    (heff : CommandStep i c l₀ l s.shared cq) (hij : j ≠ i) : CommandOk j cq (s.thread j) := by
  have hj := h.thread j
  have hi := h.thread i
  rw [hl] at hi
  cases heff with
  | execute | deliver | reply | reserve | refuse | timeout | answer | missed =>
    exact hj.same ⟨rfl, rfl, rfl, rfl, rfl, rfl⟩ Iff.rfl Iff.rfl
  | acquire hfree | join hfree =>
    exact hj.same ⟨rfl, rfl, rfl, rfl, rfl, rfl⟩ (owner_taken hij hfree) Iff.rfl
  | unlock =>
    have hmutex := h.mutex hl (.inl trivial)
    exact hj.same ⟨rfl, rfl, rfl, rfl, rfl, rfl⟩ (owner_released hij hmutex) Iff.rfl
  | joined =>
    have hmutex := h.mutex hl (.inr rfl)
    exact hj.same ⟨rfl, rfl, rfl, rfl, rfl, rfl⟩ (owner_released hij hmutex) Iff.rfl
  | registered | cancel | giveUp | released =>
    have hlock := (h.lock hl trivial).1
    exact hj.same ⟨rfl, rfl, rfl, rfl, rfl, rfl⟩ Iff.rfl (owner_released hij hlock)
  | lock hfree =>
    exact hj.same ⟨rfl, rfl, rfl, rfl, rfl, rfl⟩ Iff.rfl (owner_taken hij hfree)
  | register hfree =>
    have hmutex := h.mutex hl (.inl trivial)
    exact hj.outside hij hmutex rfl (owner_taken hij hfree) rfl (fun _ => nofun)
      fun ho => absurd (Option.some.inj ho).symm hij
  | send | wake =>
    have hmutex := h.mutex hl (.inl trivial)
    exact hj.outside hij hmutex rfl Iff.rfl rfl hj.target id
  | clean hfree =>
    have hmutex := h.mutex hl (.inl trivial)
    refine hj.outside hij hmutex rfl (owner_taken hij hfree) rfl (fun hserving => ?_) nofun
    -- a thread with a state of its own has the lock, which is free
    have hlock := hj.lock.mp (CommandThread.holdsLock_of_serving? hserving)
    exact absurd (hfree.symm.trans hlock) nofun
  | @wrote d k _ hresult =>
    obtain ⟨hlock, hserving⟩ := h.lock hl trivial
    have hnone : s.shared.serving = none := hserving
    refine hj.under hij hlock rfl rfl (fun hr => ?_) (fun _ hawaiting => ?_) rfl
      (fun w hw => List.mem_append_left _ hw) rfl
    · exact .inr (h.target (by rw [hnone]; exact nofun) hr).1
    · refine ⟨nofun, fun hr _ => ?_, fun htoken => ?_⟩
      · obtain rfl := Option.some.inj (hresult.symm.trans hr)
        exact List.mem_append_right _ (List.mem_singleton_self _)
      · obtain ⟨hmem, hserved⟩ := hawaiting.token htoken
        refine ⟨List.mem_append_left _ hmem, fun hr => ?_⟩
        rw [hnone] at hserved
        exact absurd (hserved hr) nofun
  | completed =>
    obtain ⟨hlock, hserving⟩ := h.lock hl trivial
    have hserved : s.shared.serving = some false := hserving
    refine hj.under hij hlock rfl rfl (fun _ => .inl rfl) (fun hm hawaiting => ?_) rfl
      (fun w hw => hw) rfl
    refine ⟨nofun, nofun, fun _ => ⟨?_, fun _ => rfl⟩⟩
    -- the buffer that was written is that of the one thread that has the mutex
    obtain ⟨k, hk⟩ := Option.ne_none_iff_exists'.mp (hi.target nofun)
    obtain ⟨-, hmutex, hwritten⟩ := h.target (by rw [hserved]; exact nofun) hk
    have hjmutex := hj.mutex.mp (.inl hm.executing)
    obtain rfl := Option.some.inj (hmutex.symm.trans hjmutex)
    exact hwritten.written hk hserved
  | cleared =>
    obtain ⟨hlock, -⟩ := h.lock hl trivial
    refine hj.under hij hlock rfl rfl nofun (fun _ hawaiting => ?_) rfl (fun w hw => hw) rfl
    exact ⟨nofun, nofun, fun htoken => ⟨(hawaiting.token htoken).1, nofun⟩⟩

/-- The assertions hold in every reachable state. -/
theorem command_asserted {G : ThreadAction ι CommandChoice Empty → _ → Prop}
    (h : (commandProgram ι).system.Reachable G s) : CommandAsserted s := by
  refine ThreadProgram.invariant ?_ ?_ ?_ h
  · rintro cq ⟨mq, rfl⟩
    refine ⟨⟨fun _ => rfl, fun _ => rfl, List.nodup_nil, nofun⟩, fun i => ?_, fun _ _ => trivial⟩
    constructor
    · exact ⟨fun hm => absurd hm nofun, nofun⟩
    · exact ⟨False.elim, nofun⟩
    · exact False.elim
    · exact fun hs => absurd rfl hs
    · exact nofun
    · exact False.elim
    · exact nofun
    · exact fun hm => absurd hm nofun
  · intro s i c l cq _ (hI : CommandAsserted s) _ hstep
    have heff := commandRun_spec hstep
    exact ⟨hI.ok rfl heff, hI.self rfl heff, fun j hij => ⟨hI.other rfl heff hij, trivial, trivial⟩⟩
  · intro _ e
    exact e.elim

/-! ## Deliveries -/

/-- What a step of thread `i` does to the buffers of the callers: nothing, or the
thread passes its own, or the delivery that holds `completion_lock` writes into the
buffer of the call that holds the mutex. -/
inductive DeliveryStep (i : ι)
    (s s' : Threads ι (BceVhciCommandQueue ι) CommandThread) : Prop where
  | kept : s'.shared.res = s.shared.res → s'.shared.writes = s.shared.writes → DeliveryStep i s s'
  | passed {req res : BceVhciMessage} : s'.thread i = .acquiring req →
      s'.shared.res = Function.update s.shared.res i res →
      s'.shared.writes = s.shared.writes → DeliveryStep i s s'
  | wrote {d : CommandDelivery} {j : ι} : s.thread i = .holding d →
      s.shared.completionLock = some i → (s.thread j).Executing → s.shared.mutex = some j →
      s'.shared.res = Function.update s.shared.res j d.msg →
      s'.shared.writes = s.shared.writes ++ [(s.shared.exchanges, j)] → DeliveryStep i s s'

theorem CommandAsserted.deliveryStep (h : CommandAsserted s) (hl : s.thread i = l₀)
    (heff : CommandStep i c l₀ l s.shared cq) :
    DeliveryStep i s { shared := cq, thread := Function.update s.thread i l } := by
  cases heff with
  | execute => exact .passed (Function.update_self ..) rfl rfl
  | wrote hresult =>
    obtain ⟨hlock, hserving⟩ := h.lock hl trivial
    have hnone : s.shared.serving = none := hserving
    obtain ⟨hawaiting, hmutex, -⟩ := h.target (by rw [hnone]; exact nofun) hresult
    exact .wrote hl hlock hawaiting.executing hmutex rfl rfl
  | _ => exact .kept rfl rfl

omit [DecidableEq ι] in
/-- When no call holds the mutex, `completion.result` is NULL, up to the delivery that
has completed the wait of the last one. -/
theorem CommandAsserted.result_none (h : CommandAsserted s)
    (hexecute : ∀ i, ¬(s.thread i).Executing) :
    s.shared.result = none ∨
      ∃ j destroy, s.thread j = .clearing destroy ∧ s.shared.completionLock = some j := by
  by_contra hcontra
  obtain ⟨hresult, hclearing⟩ := not_or.mp hcontra
  obtain ⟨i, hi⟩ := Option.ne_none_iff_exists'.mp hresult
  have hserving : s.shared.serving = some true :=
    ((h.thread i).result hi).resolve_right fun ha => hexecute i ha.executing
  cases hlock : s.shared.completionLock with
  | none => exact absurd ((h.shared.unserved hlock).symm.trans hserving) nofun
  | some j =>
    have hj := (h.thread j).serving ((h.thread j).lock.mpr hlock)
    rw [hserving] at hj
    refine hclearing ⟨j, ?_⟩
    cases hl : s.thread j with
    | clearing destroy => exact ⟨destroy, rfl, hlock⟩
    | _ =>
      rw [hl] at hj
      cases hj

/-- **Deliveries go to the call in progress**: `completion.result` is NULL when no call
holds the mutex, unless a delivery that still holds `completion_lock` is about to clear
it; a message is written only into the buffer of the call that holds the mutex, at most
one for each registration, which sends one message; and a wait that returns nonzero
finds the buffer written after the request was registered. -/
theorem command_deliveries (hreach : (commandProgram ι).system.Reachable (fun _ _ => True) s) :
    ((∀ i, ¬(s.thread i).Executing) → s.shared.result = none ∨
      ∃ j destroy, s.thread j = .clearing destroy ∧ s.shared.completionLock = some j) ∧
    (∀ i c s', (commandProgram ι).step (.run i c) s = some s' → DeliveryStep i s s') ∧
    ((s.shared.writes.map Prod.fst).Nodup ∧ (∀ w ∈ s.shared.writes, w.1 ≤ s.shared.exchanges) ∧
      (s.shared.mutex = none → s.shared.exchanges = s.shared.sent) ∧
      ∀ i, (s.thread i).HoldsMutex → s.shared.exchanges = s.shared.sent + (s.thread i).unsent) ∧
    ∀ i x, s.thread i = .waiting x ∧ 0 < s.shared.completion ∨ s.thread i = .answered x →
      (s.shared.exchanges, i) ∈ s.shared.writes := by
  have hs : CommandAsserted s := command_asserted hreach
  refine ⟨hs.result_none, fun i c s' hstep => ?_,
    ⟨hs.shared.once, hs.shared.past, hs.shared.sent, fun i => (hs.thread i).sent⟩, ?_⟩
  · obtain ⟨⟨l, cq⟩, hrun, rfl⟩ := Option.map_eq_some_iff.mp hstep
    exact hs.deliveryStep rfl (commandRun_spec hrun)
  · rintro i x (⟨hl, htoken⟩ | hl)
    · have hawaiting := (hs.thread i).awaiting (by simp [hl, CommandThread.Awaiting])
      exact (hawaiting.token htoken).1
    · exact (hs.thread i).answered x hl

end Keeps

/-! ## A run -/

/-- Thread one returns while thread two, which delivered its reply, is about to clear
`completion.result`. -/
def clearingRun : List (ThreadAction TwoThreads CommandChoice Empty) :=
  [.run .one (.execute ⟨0x10, 0, 0, 0⟩ default), .run .one .next, .run .one (.reserved 0),
    .run .one .next, .run .one .next, .run .one .next, .run .two (.reply BCE_VHCI_SUCCESS 0 0),
    .run .two .next, .run .two .next, .run .two .next, .run .one .next, .run .one .next,
    .run .one .next]

def commandStart (mq : BceVhciMessageQueue) :
    Threads TwoThreads (BceVhciCommandQueue TwoThreads) CommandThread where
  shared := bceVhciCommandQueueCreate TwoThreads mq
  thread := fun _ => .idle

def clearingState : Threads TwoThreads (BceVhciCommandQueue TwoThreads) CommandThread :=
  (commandProgram TwoThreads).system.after (fun _ _ => True) clearingRun
    (commandStart (bceVhciMessageQueueCreate 4 0x8000))

theorem clearingState_reachable :
    (commandProgram TwoThreads).system.Reachable (fun _ _ => True) clearingState :=
  .after (.of_init ⟨⟨_, rfl⟩, fun _ => rfl⟩) (by decide +kernel)

/-- The buffer of thread one is written in its exchange, and its call has returned 0. -/
theorem command_deliveries_of_a_reply :
    clearingState.thread .one = .returned 1 0 ∧
      (clearingState.shared.result = none ∨
        ∃ j destroy, clearingState.thread j = .clearing destroy ∧
          clearingState.shared.completionLock = some j) :=
  ⟨by decide +kernel, (command_deliveries clearingState_reachable).1 (by decide +kernel)⟩

/-- No call holds the mutex, and the pointer to the buffer is still there. -/
theorem result_kept_after_the_call :
    ¬∀ s, (commandProgram TwoThreads).system.Reachable (fun _ _ => True) s →
      (∀ i, ¬(s.thread i).Executing) → s.shared.result = none := by
  intro h
  have hresult := h clearingState clearingState_reachable (by decide +kernel)
  revert hresult
  decide +kernel

end BceDriver
