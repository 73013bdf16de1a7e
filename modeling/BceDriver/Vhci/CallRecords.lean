import BceDriver.Lib.History
import BceDriver.Vhci.CallOutcomes

/-!
# The calls of a run

A call that is over leaves no trace in the command queue, so the last call of each thread
is recorded beside it, with the writes to the buffer.

- `CallOk`: what holds of a thread and its last call: how far the outcome of the call is
  decided at each place.
- `command_outcome`: in every interleaving, every call that returns has gone as one of the
  outcomes, with the writes that were made.
-/

namespace BceDriver

/-! ## Calls of threads -/

/-- The last call of a thread: its request, what its buffer held, and the writes to its
buffer since. -/
structure CallRecord where
  req : BceVhciMessage
  res : BceVhciMessage
  writes : List CommandWrite
deriving DecidableEq, Repr, Inhabited

def CommandDelivery.write (d : CommandDelivery) : CommandWrite :=
  if d.destroy then .aborted else .delivered d.msg

/-- The call went as one of the outcomes, and returns `status`. -/
def CallRecord.Ended (r : CallRecord) (status : Int) : Prop :=
  ∃ o : ExchangeOutcome, o.writes r.req = r.writes ∧
    o.execute r.req r.res = (status, lastWritten r.writes r.res)

/-- The exchange is that of the call or its cancellation, after the writes `before`. -/
def CallRecord.Begun (r : CallRecord) (x : CommandExchange) (before : List CommandWrite) : Prop :=
  if x.cancel then
    x.req = cancelRequest r.req ∧ r.req.cmd &&& 0x4000 = 0 ∧
      ∃ late : Option CommandWrite, before = late.toList
  else x.req = r.req ∧ before = []

theorem CommandExchange.finish_cancel {x : CommandExchange} (h : x.cancel = true)
    (r : Int × BceVhciMessage) : (x.finish r.2 r.1, r.2) = bceVhciCommandQueueCancel r := by
  unfold CommandExchange.finish bceVhciCommandQueueCancel
  rw [if_pos h]
  split
  · rfl
  · split <;> rfl

/-- An exchange that ends ends its call. -/
theorem CallRecord.Begun.ended {r : CallRecord} {x : CommandExchange} {before : List CommandWrite}
    (h : r.Begun x before) (o : ExchangeOutcome) (hwrites : r.writes = before ++ o.writes x.req)
    {status : Int} (hstatus : (o.execute x.req (lastWritten before r.res)).1 = status) :
    r.Ended (x.finish (lastWritten r.writes r.res) status) := by
  have hbuffer : (o.execute x.req (lastWritten before r.res)).2 = lastWritten r.writes r.res := by
    rw [o.execute_snd, hwrites, lastWritten_append]
  unfold Begun at h
  cases hcancel : x.cancel with
  | false =>
    rw [hcancel] at h
    obtain ⟨hreq, rfl⟩ := h
    refine ⟨o, by rw [hwrites, hreq, List.nil_append], ?_⟩
    unfold CommandExchange.finish
    rw [hcancel, if_neg Bool.false_ne_true, ← hreq]
    exact Prod.ext hstatus hbuffer
  | true =>
    rw [hcancel, if_pos rfl] at h
    obtain ⟨hreq, hcmd, late, rfl⟩ := h
    refine ⟨.timedOut late o, ?_, ?_⟩
    · unfold ExchangeOutcome.writes
      rw [if_pos hcmd, hwrites, hreq]
    · unfold ExchangeOutcome.execute
      rw [if_pos hcmd, ← hreq, ← CommandExchange.finish_cancel hcancel, hbuffer, hstatus]

/-! ## The records of a run -/

/-- The request of a thread that is about to take the mutex. -/
def CommandThread.acquiring? : CommandThread → Option BceVhciMessage
  | .acquiring req => some req
  | _ => none

/-- The exchange of a thread that is yet to register its buffer for it. -/
def CommandThread.begun? : CommandThread → Option CommandExchange
  | .reserving x | .registering x => some x
  | _ => none

/-- The exchange for which the thread has registered its buffer. -/
def CommandThread.registered? : CommandThread → Option CommandExchange
  | .registered x | .writing x | .waiting x | .cleaning x | .cleaned x | .answered x => some x
  | _ => none

/-- The status the thread returns from its call, or has returned. -/
def CommandThread.ended? : CommandThread → Option Int
  | .unlocking _ status | .returned _ status => some status
  | _ => none

variable {ι : Type} [DecidableEq ι]

/-- What a step adds to the records of the threads. -/
def noteCall (a : ThreadAction ι CommandChoice Empty)
    (s _ : Threads ι (BceVhciCommandQueue ι) CommandThread) (h : ι → CallRecord) :
    ι → CallRecord :=
  match a with
  | .run i (.execute req res) => Function.update h i ⟨req, res, []⟩
  | .run i .next =>
    match s.thread i, s.shared.result with
    | .holding d, some j => Function.update h j { h j with writes := (h j).writes ++ [d.write] }
    | _, _ => h
  | _ => h

/-- The command queue, with the last call of each thread beside it. -/
def recordedCalls (ι : Type) [DecidableEq ι] : StepSystem
    (Threads ι (BceVhciCommandQueue ι) CommandThread × (ι → CallRecord))
    (ThreadAction ι CommandChoice Empty) :=
  (commandProgram ι).system.withHistory (fun _ _ => default) noteCall

/-- `bce_reserve_submission` returns 0 or `-EAGAIN`. -/
def ReservationsReturn {σ : Type} : ThreadAction ι CommandChoice Empty → σ → Prop
  | .run _ (.reserved status), _ => status = 0 ∨ status = -EAGAIN
  | _, _ => True

/-- What holds of a thread and its last call. -/
structure CallOk (i : ι) (r : CallRecord) (cq : BceVhciCommandQueue ι) (l : CommandThread) :
    Prop where
  buffer : cq.res i = lastWritten r.writes r.res
  acquiring : ∀ req, l.acquiring? = some req → req = r.req ∧ r.writes = []
  begun : ∀ x, l.begun? = some x → r.Begun x r.writes
  registered : ∀ x, l.registered? = some x → ∃ (before : List CommandWrite)
    (late : Option CommandWrite), r.Begun x before ∧ r.writes = before ++ late.toList ∧
      (late.isSome = true ↔ (cq.exchanges, i) ∈ cq.writes)
  ended : ∀ status, l.ended? = some status → r.Ended status
  delivery : ∀ d, l.delivery? = some d → d.destroy = true → d.msg = abortMessage

section Steps

variable {s : Threads ι (BceVhciCommandQueue ι) CommandThread} {h : ι → CallRecord} {i j : ι}
  {c : CommandChoice} {l : CommandThread} {cq : BceVhciCommandQueue ι}

/-- A call begins where `execute` is chosen. -/
theorem commandRun_acquiring {l₀ : CommandThread} {cq₀ : BceVhciCommandQueue ι}
    {req : BceVhciMessage} (hstep : commandRun i c l₀ cq₀ = some (.acquiring req, cq)) :
    ∃ res, c = .execute req res ∧ cq = { cq₀ with
      res := Function.update cq₀.res i res
      origin := Function.update cq₀.origin i none } := by
  have hfree : l₀.Free := by
    have heff := commandRun_spec hstep
    generalize hl : CommandThread.acquiring req = l at heff
    cases heff with
    | execute hfree => exact hfree
    | @released destroy =>
      cases destroy with
      | false | true => cases hl
    | _ => cases hl
  cases l₀ with
  | idle | returned =>
    cases c with
    | execute req' res =>
      cases hstep
      exact ⟨res, rfl, rfl⟩
    | reply =>
      simp only [commandRun, commandCallStep] at hstep
      split at hstep
      · cases hstep
      · cases hstep
    | deliver | destroy | reserved | next | timeout => cases hstep
  | _ => exact hfree.elim

theorem commandRun_execute {l₀ : CommandThread} {cq₀ : BceVhciCommandQueue ι}
    {req res : BceVhciMessage} (hstep : commandRun i (.execute req res) l₀ cq₀ = some (l, cq)) :
    l = .acquiring req := by
  cases l₀ with
  | idle | returned =>
    cases hstep
    rfl
  | _ => cases hstep

theorem noteCall_of_passed (hc : ∀ req res, c ≠ .execute req res)
    (hl : ∀ d, s.thread i = .holding d → s.shared.result = none)
    (s' : Threads ι (BceVhciCommandQueue ι) CommandThread) (h : ι → CallRecord) :
    noteCall (.run i c) s s' h = h := by
  cases c with
  | execute req res => exact absurd rfl (hc req res)
  | next =>
    unfold noteCall
    dsimp only
    split
    · next d j hd hresult =>
      rw [hl d hd] at hresult
      cases hresult
    · rfl
  | deliver | reply | destroy | reserved | timeout => rfl

/-- What a step does to the records: a call begins, a delivery is written, or nothing. -/
theorem noteCall_cases (hstep : commandRun i c (s.thread i) s.shared = some (l, cq))
    (s' : Threads ι (BceVhciCommandQueue ι) CommandThread) (h : ι → CallRecord) :
    (∃ req res, l = .acquiring req ∧ cq = { s.shared with
        res := Function.update s.shared.res i res
        origin := Function.update s.shared.origin i none } ∧
      noteCall (.run i c) s s' h = Function.update h i ⟨req, res, []⟩) ∨
    (∃ d j, s.thread i = .holding d ∧ s.shared.result = some j ∧ l = .completing d.destroy ∧
      cq = { s.shared with
        res := Function.update s.shared.res j d.msg
        origin := Function.update s.shared.origin j d.owner
        writes := s.shared.writes ++ [(s.shared.exchanges, j)]
        serving := some false } ∧
      noteCall (.run i c) s s' h =
        Function.update h j { h j with writes := (h j).writes ++ [d.write] }) ∨
    (noteCall (.run i c) s s' h = h ∧ (∀ req, l ≠ .acquiring req) ∧
      cq.res = s.shared.res ∧ cq.writes = s.shared.writes) := by
  have heff := commandRun_spec hstep
  generalize hl : s.thread i = l₀ at hstep heff
  generalize hcq : s.shared = cq₀ at hstep heff ⊢
  have hpassed : (∀ req, l ≠ .acquiring req) → (∀ d, l₀ = .holding d → cq₀.result = none) →
      noteCall (.run i c) s s' h = h := by
    intro hacquiring hholding
    refine noteCall_of_passed ?_ (fun d hd => hcq ▸ hholding d (hl.symm.trans hd)) s' h
    rintro req res rfl
    exact hacquiring req (commandRun_execute hstep)
  cases heff with
  | execute =>
    obtain ⟨res, rfl, heq⟩ := commandRun_acquiring hstep
    exact .inl ⟨_, res, rfl, heq, rfl⟩
  | @wrote d j _ hresult =>
    refine .inr (.inl ⟨d, j, rfl, hresult, rfl, rfl, ?_⟩)
    cases c with
    | next =>
      unfold noteCall
      dsimp only
      rw [hl, hcq, hresult]
    | execute | deliver | reply | destroy | reserved | timeout => cases hstep
  | missed hresult =>
    exact .inr (.inr ⟨hpassed nofun (fun _ _ => hresult), nofun, rfl, rfl⟩)
  | deliver hfree | reply hfree =>
    refine .inr (.inr ⟨hpassed nofun ?_, nofun, rfl, rfl⟩)
    rintro d rfl
    exact hfree.elim
  | @released destroy =>
    cases destroy with
    | false | true => exact .inr (.inr ⟨hpassed nofun nofun, nofun, rfl, rfl⟩)
  | _ => exact .inr (.inr ⟨hpassed nofun nofun, nofun, rfl, rfl⟩)

theorem none_eq_some {α : Type} {P : α → Prop} (a : α) (h : none = some a) : P a :=
  nomatch h

omit [DecidableEq ι] in
/-- A thread that moves, or not, with its last call and its buffer as they were. -/
theorem CallOk.moved {r : CallRecord} {cq cq' : BceVhciCommandQueue ι} {l l' : CommandThread}
    (h : CallOk i r cq l) (hres : cq'.res i = cq.res i)
    (hacquiring : ∀ req, l'.acquiring? = some req → l.acquiring? = some req)
    (hbegun : ∀ x, l'.begun? = some x → l.begun? = some x)
    (hregistered : ∀ x, l'.registered? = some x → l.registered? = some x ∧
      ((cq'.exchanges, i) ∈ cq'.writes ↔ (cq.exchanges, i) ∈ cq.writes))
    (hended : ∀ status, l'.ended? = some status → l.ended? = some status)
    (hdelivery : ∀ d, l'.delivery? = some d → l.delivery? = some d) : CallOk i r cq' l' where
  buffer := hres.trans h.buffer
  acquiring req hl := h.acquiring req (hacquiring req hl)
  begun x hx := h.begun x (hbegun x hx)
  registered x hx := by
    obtain ⟨hx, hwrites⟩ := hregistered x hx
    obtain ⟨before, late, hbegun, hlate, hwritten⟩ := h.registered x hx
    exact ⟨before, late, hbegun, hlate, hwritten.trans hwrites.symm⟩
  ended status hs := h.ended status (hended status hs)
  delivery d hd := h.delivery d (hdelivery d hd)

omit [DecidableEq ι] in
/-- A thread that is in no call. -/
theorem CallOk.nowhere {r : CallRecord} {l : CommandThread}
    (hbuffer : cq.res i = lastWritten r.writes r.res)
    (hacquiring : l.acquiring? = none) (hbegun : l.begun? = none)
    (hregistered : l.registered? = none) (hended : l.ended? = none)
    (hdelivery : ∀ d, l.delivery? = some d → d.destroy = true → d.msg = abortMessage) :
    CallOk i r cq l where
  buffer := hbuffer
  acquiring req hl := absurd (hl.symm.trans hacquiring) (Option.some_ne_none req)
  begun x hx := absurd (hx.symm.trans hbegun) (Option.some_ne_none x)
  registered x hx := absurd (hx.symm.trans hregistered) (Option.some_ne_none x)
  ended status hs := absurd (hs.symm.trans hended) (Option.some_ne_none status)
  delivery := hdelivery

theorem CommandDelivery.write_msg {d : CommandDelivery}
    (h : d.destroy = true → d.msg = abortMessage) : d.write.msg = d.msg := by
  unfold CommandDelivery.write
  split
  · next hdestroy => exact (h hdestroy).symm
  · rfl

/-- The cancellation begins where the wait for the reply timed out. -/
theorem CallRecord.Begun.cancellation {r : CallRecord} {x : CommandExchange}
    {before : List CommandWrite} {late : Option CommandWrite} (h : r.Begun x before)
    (hcmd : x.req.cmd &&& 0x4000 = 0) (hwrites : r.writes = before ++ late.toList) :
    r.Begun x.cancellation r.writes := by
  unfold Begun at h ⊢
  cases hcancel : x.cancel with
  | true =>
    rw [hcancel, if_pos rfl] at h
    rw [h.1] at hcmd
    exact absurd hcmd cancelRequest_cmd
  | false =>
    rw [hcancel] at h
    obtain ⟨hreq, rfl⟩ := h
    have hsent : x.cancellation.req = cancelRequest r.req := by rw [← hreq]; rfl
    exact (if_pos rfl).mpr ⟨hsent, hreq ▸ hcmd, late, hwrites⟩

theorem commandRun_reserving {x : CommandExchange} {cq₀ : BceVhciCommandQueue ι}
    (hstep : commandRun i c (.reserving x) cq₀ = some (l, cq)) :
    ∃ status, c = .reserved status ∧ l = if status = 0 then .registering x
      else .unlocking x.call (x.finish (cq₀.res i) status) := by
  cases c with
  | reserved status =>
    cases hstep
    exact ⟨status, rfl, rfl⟩
  | _ => cases hstep

theorem commandRun_cleaned {x : CommandExchange} {cq₀ : BceVhciCommandQueue ι}
    (hstep : commandRun i c (.cleaned x) cq₀ = some (l, cq)) :
    l = if x.req.cmd &&& 0x4000 = 0 then .reserving x.cancellation
      else .unlocking x.call (x.finish (cq₀.res i) (-ETIMEDOUT)) := by
  cases c with
  | next =>
    cases hstep
    rfl
  | _ => cases hstep

omit [DecidableEq ι] in
/-- A thread whose call is decided. -/
theorem CallOk.unlocking {r : CallRecord} {call : Nat} {status : Int}
    (hbuffer : cq.res i = lastWritten r.writes r.res) (hended : r.Ended status) :
    CallOk i r cq (.unlocking call status) := by
  refine ⟨hbuffer, none_eq_some, none_eq_some, none_eq_some, ?_, none_eq_some⟩
  intro status' hstatus
  obtain rfl := Option.some.inj hstatus
  exact hended

omit [DecidableEq ι] in
/-- A thread that begins an exchange. -/
theorem CallOk.reserving {r : CallRecord} {x : CommandExchange}
    (hbuffer : cq.res i = lastWritten r.writes r.res) (hbegun : r.Begun x r.writes) :
    CallOk i r cq (.reserving x) := by
  refine ⟨hbuffer, none_eq_some, ?_, none_eq_some, none_eq_some, none_eq_some⟩
  intro x' hx
  obtain rfl := Option.some.inj hx
  exact hbegun

/-- What holds of the thread that takes a step, if it begins no call. -/
theorem CallOk.self {r : CallRecord} (hi : CallOk i r s.shared (s.thread i))
    (hs : CommandAsserted s) {σ : Type} {p : σ} (hreturn : ReservationsReturn (.run i c) p)
    (hstep : commandRun i c (s.thread i) s.shared = some (l, cq)) (hres : cq.res i = s.shared.res i)
    (hacquiring : ∀ req, l ≠ .acquiring req) : CallOk i r cq l := by
  have hci := hs.thread i
  have heff := commandRun_spec hstep
  have hbuffer := hres.trans hi.buffer
  generalize s.thread i = l₀ at hstep heff hi hci
  cases heff with
  | execute => exact absurd rfl (hacquiring _)
  | @deliver _ msg destroy _ _ hdestroy =>
    refine .nowhere hbuffer rfl rfl rfl rfl ?_
    intro d hd habort
    obtain rfl := Option.some.inj hd
    rwa [if_pos habort] at hdestroy
  | reply =>
    refine .nowhere hbuffer rfl rfl rfl rfl ?_
    intro d hd hdestroy
    obtain rfl := Option.some.inj hd
    cases hdestroy
  | missed | completed | cleared | join | joined | wrote =>
    exact .nowhere hbuffer rfl rfl rfl rfl none_eq_some
  | @released destroy =>
    cases destroy with
    | false | true => exact .nowhere hbuffer rfl rfl rfl rfl none_eq_some
  | @acquire req _ _ =>
    -- the first exchange of a call is not a cancellation
    exact .reserving hbuffer (hi.acquiring req rfl)
  | reserve | unlock | lock =>
    exact hi.moved rfl none_eq_some (fun _ => id) none_eq_some (fun _ => id) (fun _ => id)
  | registered | send | wake | timeout | clean =>
    exact hi.moved rfl none_eq_some none_eq_some (fun _ hx => ⟨hx, .rfl⟩) none_eq_some none_eq_some
  | @refuse x _ _ hrefused =>
    -- `bce_reserve_submission` has returned `-EAGAIN`, and nothing is sent
    obtain ⟨reserved, rfl, heq⟩ := commandRun_reserving hstep
    obtain rfl | rfl := hreturn
    · cases heq
    · rw [heq, hi.buffer]
      exact .unlocking hbuffer ((hi.begun x rfl).ended .refused (List.append_nil _).symm rfl)
  | @register x _ _ =>
    refine ⟨hbuffer, none_eq_some, none_eq_some, ?_, none_eq_some, none_eq_some⟩
    intro y hy
    obtain rfl := Option.some.inj hy
    -- no write of this exchange is recorded yet
    refine ⟨r.writes, none, hi.begun x rfl, (List.append_nil _).symm,
      fun h => absurd h Bool.false_ne_true, fun hw => ?_⟩
    exact absurd (hs.shared.past _ hw) (Nat.not_succ_le_self _)
  | @cancel x _ =>
    obtain ⟨before, late, hbegun, hwrites, -⟩ := hi.registered x rfl
    have hcmd : x.req.cmd &&& 0x4000 = 0 := by
      by_contra hcmd
      have heq := commandRun_cleaned hstep
      rw [if_neg hcmd] at heq
      cases heq
    exact .reserving hbuffer (hbegun.cancellation hcmd hwrites)
  | @giveUp x =>
    obtain ⟨before, late, hbegun, hwrites, -⟩ := hi.registered x rfl
    have hcmd : ¬x.req.cmd &&& 0x4000 = 0 := by
      intro hcmd
      have heq := commandRun_cleaned hstep
      rw [if_pos hcmd] at heq
      cases heq
    rw [hi.buffer]
    refine .unlocking hbuffer (hbegun.ended (.timedOut late .refused) ?_ ?_)
    · rw [ExchangeOutcome.writes, if_neg hcmd, List.append_nil, hwrites]
    · rw [ExchangeOutcome.execute, if_neg hcmd]
  | @answer x _ =>
    obtain ⟨before, late, hbegun, hwrites, hwritten⟩ := hi.registered x rfl
    -- the wait was completed, so the buffer was written in this exchange
    obtain ⟨w, rfl⟩ := Option.isSome_iff_exists.mp (hwritten.mpr (hci.answered x rfl))
    rw [hi.buffer]
    refine .unlocking hbuffer (hbegun.ended (.answered w) hwrites ?_)
    rw [hwrites, Option.toList_some, lastWritten_concat]
    rfl

/-- What holds of the other threads, if none of their buffers is written. -/
theorem CallOk.other {r : CallRecord} (hj : CallOk j r s.shared (s.thread j))
    (hs : CommandAsserted s) (hstep : commandRun i c (s.thread i) s.shared = some (l, cq))
    (hij : j ≠ i) (hres : cq.res j = s.shared.res j)
    (hwrites : (s.shared.exchanges, j) ∈ cq.writes ↔ (s.shared.exchanges, j) ∈ s.shared.writes) :
    CallOk j r cq (s.thread j) := by
  refine hj.moved hres (fun _ => id) (fun _ => id) (fun x hx => ⟨hx, ?_⟩) (fun _ => id)
    (fun _ => id)
  have heff := commandRun_spec hstep
  generalize hl : s.thread i = l₀ at hstep heff
  cases heff with
  | register =>
    -- the thread that registers has the mutex, so no other is in an exchange
    have hexecuting : (s.thread j).Executing := by
      revert hx
      cases s.thread j with
      | registered | writing | waiting | cleaning | cleaned | answered => exact fun _ => trivial
      | _ => exact nofun
    have hmutex := hs.mutex hl (.inl trivial)
    have hj := (hs.thread j).mutex.mp (.inl hexecuting)
    exact absurd (Option.some.inj (hj.symm.trans hmutex)) hij
  | _ => exact hwrites

/-- What holds of the thread whose buffer a delivery writes. -/
theorem CallOk.written {r : CallRecord} (hj : CallOk j r s.shared (s.thread j))
    (hs : CommandAsserted s) {d : CommandDelivery} (hl : s.thread i = .holding d)
    (hd : d.destroy = true → d.msg = abortMessage) (hresult : s.shared.result = some j) :
    CallOk j { r with writes := r.writes ++ [d.write] }
      { s.shared with
        res := Function.update s.shared.res j d.msg
        origin := Function.update s.shared.origin j d.owner
        writes := s.shared.writes ++ [(s.shared.exchanges, j)]
        serving := some false } (s.thread j) := by
  have hserving : s.shared.serving = none := (hs.lock hl trivial).2
  obtain ⟨hawaiting, -, hok⟩ := hs.target (by rw [hserving]; exact nofun) hresult
  have hbuffer : Function.update s.shared.res j d.msg j =
      lastWritten (r.writes ++ [d.write]) r.res := by
    rw [Function.update_self, lastWritten_concat, CommandDelivery.write_msg hd]
  -- nothing was written in this exchange before
  have hfresh : (s.shared.exchanges, j) ∉ s.shared.writes :=
    fun hw => hok.fresh hresult hserving _ hw rfl
  have hregistered : ∀ x, (s.thread j).registered? = some x → ∃ (before : List CommandWrite)
      (late : Option CommandWrite), r.Begun x before ∧
        r.writes ++ [d.write] = before ++ late.toList ∧
        (late.isSome = true ↔
          (s.shared.exchanges, j) ∈ s.shared.writes ++ [(s.shared.exchanges, j)]) := by
    intro x hx
    obtain ⟨before, late, hbegun, hwrites, hwritten⟩ := hj.registered x hx
    cases late with
    | some w => exact absurd (hwritten.mp rfl) hfresh
    | none =>
      rw [Option.toList_none, List.append_nil] at hwrites
      exact ⟨before, some d.write, hbegun, by rw [hwrites]; rfl, by simp⟩
  revert hawaiting hregistered
  cases s.thread j with
  | registered | writing | waiting | cleaning =>
    exact fun _ hregistered =>
      ⟨hbuffer, none_eq_some, none_eq_some, hregistered, none_eq_some, none_eq_some⟩
  | _ => exact fun hawaiting => hawaiting.elim

/-- Every step keeps what holds of the threads and their calls. -/
theorem calls_ok_step (hs : CommandAsserted s)
    (hI : ∀ i, CallOk i (h i) s.shared (s.thread i)) {σ : Type} {p : σ}
    (hreturn : ReservationsReturn (.run i c) p)
    (hstep : commandRun i c (s.thread i) s.shared = some (l, cq))
    (s' : Threads ι (BceVhciCommandQueue ι) CommandThread) (j : ι) :
    CallOk j (noteCall (.run i c) s s' h j) cq (Function.update s.thread i l j) := by
  obtain ⟨req, res, rfl, rfl, hnote⟩ | ⟨d, k, hl, hresult, rfl, rfl, hnote⟩ |
    ⟨hnote, hacquiring, hres, hwrites⟩ := noteCall_cases hstep s' h
  · rw [hnote]
    by_cases hj : j = i
    · subst hj
      rw [Function.update_self, Function.update_self]
      refine ⟨Function.update_self .., ?_, none_eq_some, none_eq_some, none_eq_some, none_eq_some⟩
      intro req' hreq
      obtain rfl := Option.some.inj hreq
      exact ⟨rfl, rfl⟩
    · rw [Function.update_of_ne hj, Function.update_of_ne hj]
      exact (hI j).other hs hstep hj (Function.update_of_ne hj ..) .rfl
  · rw [hnote]
    have hd := (hI i).delivery d (by rw [hl]; rfl)
    have hi := (hI i).buffer
    have hki : k ≠ i := by
      rintro rfl
      obtain ⟨hawaiting, -⟩ := hs.target (by rw [(hs.lock hl trivial).2]; exact nofun) hresult
      rw [hl] at hawaiting
      exact hawaiting
    by_cases hj : j = i
    · subst hj
      rw [Function.update_self, Function.update_of_ne (Ne.symm hki)]
      refine .nowhere ?_ rfl rfl rfl rfl none_eq_some
      exact (Function.update_of_ne (Ne.symm hki) ..).trans hi
    · rw [Function.update_of_ne hj]
      by_cases hk : j = k
      · subst hk
        rw [Function.update_self]
        exact (hI j).written hs hl hd hresult
      · rw [Function.update_of_ne hk]
        exact (hI j).other hs hstep hj (Function.update_of_ne hk ..) (by simp [hk])
  · rw [hnote]
    by_cases hj : j = i
    · subst hj
      rw [Function.update_self]
      exact (hI j).self hs hreturn hstep (by rw [hres]) hacquiring
    · rw [Function.update_of_ne hj]
      exact (hI j).other hs hstep hj (by rw [hres]) (by rw [hwrites])

end Steps

/-! ## Every call is one of the outcomes -/

variable {s : Threads ι (BceVhciCommandQueue ι) CommandThread} {h : ι → CallRecord}

theorem calls_ok (hreach : (recordedCalls ι).Reachable ReservationsReturn (s, h)) (i : ι) :
    CallOk i (h i) s.shared (s.thread i) := by
  refine StepSystem.Reachable.invariant
    (I := fun p : _ × (ι → CallRecord) => ∀ i, CallOk i (p.2 i) p.1.shared (p.1.thread i))
    ?_ ?_ hreach i
  · rintro ⟨s, h⟩ hinit i
    obtain ⟨⟨⟨mq, hmq⟩, hstart⟩, rfl⟩ := StepSystem.withHistory_init.mp hinit
    have hthread : s.thread i = .idle := hstart i
    dsimp only
    rw [hthread, hmq]
    exact .nowhere rfl rfl rfl rfl rfl none_eq_some
  · rintro a ⟨s, h⟩ ⟨s', h'⟩ hreach hI hguard hnext j
    have hrun : (commandProgram ι).system.Reachable (fun _ _ => True) s :=
      hreach.forget fun _ _ _ => trivial
    have hs := command_asserted hrun
    obtain ⟨hstep, rfl⟩ := StepSystem.withHistory_step hnext
    obtain ⟨i, c, l, cq, rfl, hrun, rfl⟩ | ⟨e, _⟩ := ThreadProgram.step_cases hstep
    · exact calls_ok_step hs hI hguard hrun ⟨cq, Function.update s.thread i l⟩ j
    · exact e.elim

/-- **Every call is one of the outcomes.** -/
theorem command_outcome (hreach : (recordedCalls ι).Reachable ReservationsReturn (s, h)) {i : ι}
    {call : Nat} {status : Int} (hreturned : s.thread i = .returned call status) :
    ∃ o : ExchangeOutcome, o.writes (h i).req = (h i).writes ∧
      o.execute (h i).req (h i).res = (status, s.shared.res i) := by
  have hi := calls_ok hreach i
  obtain ⟨o, hwrites, hexecute⟩ := hi.ended status (by rw [hreturned]; rfl)
  exact ⟨o, hwrites, by rw [hexecute, hi.buffer]⟩

end BceDriver
