import BceDriver.Mailbox.Basic

/-!
# Exchanges over the mailbox

- `mailbox_one_sender`: in every run, at most one sender holds the mailbox, a
  sender that finds it busy changes nothing, and a sender that returns 0 returns
  a value stored by a handler run that had not finished at its claim.
- `mailbox_free_when_idle`: the mailbox is free whenever nobody uses it, in the
  runs in which the handler sets `mb_status` only while a sender holds the
  mailbox.
- `late_reply_keeps_mailbox_busy`: without that, it is not.

The assertions are those of the interference rule: what holds of the mailbox, of
each sender, and of each two senders.
-/

namespace BceDriver

/-! ## Fresh results -/

/-- `mb_result` was last stored by run `since` or a later one. -/
def BceMailbox.Fresh (mb : BceMailbox) (since : Nat) : Prop :=
  ∃ r stores, mb.stores = stores ++ [(r, mb.mbResult)] ∧ since ≤ r

/-- A run from `since` on stored `v`. -/
def BceMailbox.StoredSince (mb : BceMailbox) (since : Nat) (v : BitVec 64) : Prop :=
  ∃ r, since ≤ r ∧ (r, v) ∈ mb.stores

theorem BceMailbox.Fresh.storedSince {mb : BceMailbox} {since : Nat} (h : mb.Fresh since) :
    mb.StoredSince since mb.mbResult := by
  obtain ⟨r, stores, hstores, hr⟩ := h
  exact ⟨r, hr, by simp [hstores]⟩

/-- The run about to set `mb_status`, or to wake the waiter, stored `mb_result`. -/
def BceMailbox.HandlerFresh (mb : BceMailbox) : Prop :=
  (mb.handler = .retrieving 0 ∨ mb.handler = .completing) → mb.Fresh mb.finished

/-- What holds of a sender. -/
def SenderOk (mb : BceMailbox) : Sender → Prop
  | .idle => True
  | .sending since phase =>
    mb.mbStatus ≠ 0 ∧ since ≤ mb.finished ∧
      (mb.mbStatus = 2 ∨ phase = .replied → mb.Fresh since) ∧
      ∀ v, phase = .received v → mb.StoredSince since v
  | .returned since status recv => status = 0 → ∃ v, recv = some v ∧ mb.StoredSince since v

/-- No two senders hold the mailbox. -/
def SendersApart (l m : Sender) : Prop :=
  ¬(l.Sending ∧ m.Sending)

/-! ## The steps -/

/-- What the step of a sender may do to the mailbox as others see it: the status
changes only when the mailbox is claimed, or released by its holder. -/
inductive SendEffect (l l' : Sender) (mb mb' : BceMailbox) : Prop where
  | claimed : mb.mbStatus = 0 → mb'.mbStatus = 1 → l'.Sending → SendEffect l l' mb mb'
  | kept : mb'.mbStatus = mb.mbStatus → (l'.Sending ↔ l.Sending) → SendEffect l l' mb mb'
  | released : l.Sending → ¬l'.Sending → mb'.mbStatus = 0 → SendEffect l l' mb mb'

/-- The senders leave the handler and its records alone. -/
structure SameHandler (mb mb' : BceMailbox) : Prop where
  mbResult : mb'.mbResult = mb.mbResult
  handler : mb'.handler = mb.handler
  finished : mb'.finished = mb.finished
  stores : mb'.stores = mb.stores

theorem SameHandler.fresh {mb mb' : BceMailbox} (h : SameHandler mb mb') {since : Nat} :
    mb'.Fresh since ↔ mb.Fresh since := by
  unfold BceMailbox.Fresh
  rw [h.stores, h.mbResult]

theorem SameHandler.storedSince {mb mb' : BceMailbox} (h : SameHandler mb mb') {since : Nat}
    {v : BitVec 64} : mb'.StoredSince since v ↔ mb.StoredSince since v := by
  unfold BceMailbox.StoredSince
  rw [h.stores]

theorem SameHandler.handlerFresh {mb mb' : BceMailbox} (h : SameHandler mb mb') :
    mb'.HandlerFresh ↔ mb.HandlerFresh := by
  unfold BceMailbox.HandlerFresh
  rw [h.handler, h.finished, h.fresh]

/-- The steps of the sender that holds the mailbox. -/
theorem mailboxSendStep_spec {since : Nat} (timeout : Bool) {phase : SendPhase} {l' : Sender}
    {mb mb' : BceMailbox} (hok : SenderOk mb (.sending since phase))
    (hstep : mailboxSendStep since timeout phase mb = some (l', mb')) :
    SameHandler mb mb' ∧ SenderOk mb' l' ∧ SendEffect (.sending since phase) l' mb mb' := by
  obtain ⟨hbusy, hsince, hfresh, hrecv⟩ := hok
  -- a step that only moves on keeps the status, and what is known of the reply with it
  have hgoes : ∀ {phase' : SendPhase} {mb' : BceMailbox}, SameHandler mb mb' →
      mb'.mbStatus = mb.mbStatus → (phase' = .replied → mb.mbStatus = 2) →
      (∀ v, phase' = .received v → mb.StoredSince since v) →
      SameHandler mb mb' ∧ SenderOk mb' (.sending since phase') ∧
        SendEffect (.sending since phase) (.sending since phase') mb mb' := by
    intro phase' mb' hsame hstatus hreplied hreceived
    refine ⟨hsame, ⟨hstatus ▸ hbusy, hsame.finished ▸ hsince, ?_, ?_⟩, .kept hstatus Iff.rfl⟩
    · rintro (h | h)
      · exact hsame.fresh.mpr (hfresh (.inl (hstatus ▸ h)))
      · exact hsame.fresh.mpr (hfresh (.inl (hreplied h)))
    · exact fun v hv => hsame.storedSince.mpr (hreceived v hv)
  cases phase with
  | claimed msg =>
    obtain ⟨rfl, rfl⟩ := by simpa [mailboxSendStep] using hstep
    exact hgoes ⟨rfl, rfl, rfl, rfl⟩ rfl (by simp) (by simp)
  | writing msg k =>
    obtain ⟨rfl, rfl⟩ := by simpa [mailboxSendStep] using hstep
    by_cases hk : k + 1 < 4
    · rw [if_pos hk]
      exact hgoes ⟨rfl, rfl, rfl, rfl⟩ rfl (by simp) (by simp)
    · rw [if_neg hk]
      exact hgoes ⟨rfl, rfl, rfl, rfl⟩ rfl (by simp) (by simp)
  | waiting =>
    simp only [mailboxSendStep] at hstep
    split at hstep
    · split at hstep
      · obtain ⟨rfl, rfl⟩ := by simpa using hstep
        exact hgoes ⟨rfl, rfl, rfl, rfl⟩ rfl (by simp) (by simp)
      · cases hstep
    · split at hstep
      · obtain ⟨rfl, rfl⟩ := by simpa using hstep
        exact hgoes ⟨rfl, rfl, rfl, rfl⟩ rfl (by simp) (by simp)
      · cases hstep
  | woken =>
    obtain ⟨rfl, rfl⟩ := by simpa [mailboxSendStep] using hstep
    by_cases hreply : mb.mbStatus = 2
    · rw [if_pos hreply]
      exact hgoes ⟨rfl, rfl, rfl, rfl⟩ rfl (fun _ => hreply) (by simp)
    · rw [if_neg hreply]
      exact hgoes ⟨rfl, rfl, rfl, rfl⟩ rfl (by simp) (by simp)
  | replied =>
    obtain ⟨rfl, rfl⟩ := by simpa [mailboxSendStep] using hstep
    refine hgoes ⟨rfl, rfl, rfl, rfl⟩ rfl (by simp) fun v hv => ?_
    obtain rfl := SendPhase.received.inj hv
    exact (hfresh (.inr rfl)).storedSince
  | received recv =>
    obtain ⟨rfl, rfl⟩ := by simpa [mailboxSendStep] using hstep
    exact ⟨⟨rfl, rfl, rfl, rfl⟩, fun _ => ⟨recv, rfl, hrecv recv rfl⟩, .released trivial id rfl⟩
  | timedOut =>
    obtain ⟨rfl, rfl⟩ := by simpa [mailboxSendStep] using hstep
    exact ⟨⟨rfl, rfl, rfl, rfl⟩, fun h => absurd h (by decide), .released trivial id rfl⟩

theorem mailboxClaim_spec (msg : BitVec 64) {l : Sender} (hl : ¬l.Sending) (mb : BceMailbox) :
    SameHandler mb (mailboxClaim msg mb).2 ∧
      SenderOk (mailboxClaim msg mb).2 (mailboxClaim msg mb).1 ∧
      SendEffect l (mailboxClaim msg mb).1 mb (mailboxClaim msg mb).2 := by
  unfold mailboxClaim
  by_cases hbusy : mb.mbStatus = 0
  · rw [if_neg (not_not_intro hbusy)]
    refine ⟨⟨rfl, rfl, rfl, rfl⟩, ⟨by simp, le_rfl, ?_, by simp⟩, .claimed hbusy rfl trivial⟩
    simp
  · rw [if_pos hbusy]
    exact ⟨⟨rfl, rfl, rfl, rfl⟩, fun h => absurd h (by decide), .kept rfl ⟨False.elim, hl⟩⟩

/-- One step of `bce_mailbox_send`. -/
theorem bceMailboxSend_spec {c : SendChoice} {l l' : Sender} {mb mb' : BceMailbox}
    (hok : SenderOk mb l) (hstep : bceMailboxSend c l mb = some (l', mb')) :
    SameHandler mb mb' ∧ SenderOk mb' l' ∧ SendEffect l l' mb mb' := by
  cases c with
  | send msg =>
    cases l with
    | idle =>
      have hclaim := mailboxClaim_spec msg (l := .idle) id mb
      rwa [Option.some.inj hstep] at hclaim
    | returned since status recv =>
      have hclaim := mailboxClaim_spec msg (l := .returned since status recv) id mb
      rwa [Option.some.inj hstep] at hclaim
    | sending => simp [bceMailboxSend] at hstep
  | next =>
    cases l with
    | idle | returned => simp [bceMailboxSend] at hstep
    | sending since phase => exact mailboxSendStep_spec false hok hstep
  | timeout =>
    cases l with
    | idle | returned => simp [bceMailboxSend] at hstep
    | sending since phase =>
      cases phase with
      | waiting => exact mailboxSendStep_spec true hok hstep
      | claimed | writing | woken | replied | received | timedOut =>
        simp [bceMailboxSend] at hstep

/-- What another sender is left with. -/
theorem SenderOk.other {l l' m : Sender} {mb mb' : BceMailbox} (hm : SenderOk mb m)
    (happart : SendersApart l m) (hsame : SameHandler mb mb') (heff : SendEffect l l' mb mb') :
    SenderOk mb' m ∧ SendersApart l' m := by
  cases m with
  | idle => exact ⟨trivial, fun h => h.2⟩
  | returned since status recv =>
    refine ⟨fun h => ?_, fun h => h.2⟩
    obtain ⟨v, rfl, hv⟩ := hm h
    exact ⟨v, rfl, hsame.storedSince.mpr hv⟩
  | sending since phase =>
    obtain ⟨hbusy, hsince, hfresh, hrecv⟩ := hm
    cases heff with
    | claimed hfree => exact absurd hfree hbusy
    | released hl => exact absurd ⟨hl, trivial⟩ happart
    | kept hstatus hkeep =>
      refine ⟨⟨hstatus ▸ hbusy, hsame.finished ▸ hsince, fun h => ?_, fun v hv => ?_⟩, fun h => ?_⟩
      · exact hsame.fresh.mpr (hfresh (hstatus ▸ h))
      · exact hsame.storedSince.mpr (hrecv v hv)
      · exact happart ⟨hkeep.mp h.1, trivial⟩

theorem BceMailbox.Fresh.mono {mb : BceMailbox} {since since' : Nat} (h : mb.Fresh since)
    (hle : since' ≤ since) : mb.Fresh since' := by
  obtain ⟨r, stores, hstores, hr⟩ := h
  exact ⟨r, stores, hstores, hle.trans hr⟩

/-- A handler step keeps what a sender knows if the values stored so far stay and
whatever the sender takes for its reply is fresh. -/
theorem SenderOk.handled {mb mb' : BceMailbox} {l : Sender} {more : List (Nat × BitVec 64)}
    (hl : SenderOk mb l) (hbusy : mb.mbStatus ≠ 0 → mb'.mbStatus ≠ 0)
    (hfinished : mb.finished ≤ mb'.finished) (hstores : mb'.stores = mb.stores ++ more)
    (hfresh : ∀ since ≤ mb.finished, (mb.mbStatus = 2 → mb.Fresh since) → mb'.mbStatus = 2 →
      mb'.Fresh since)
    (hkept : ∀ since ≤ mb.finished, mb.Fresh since → mb'.Fresh since) : SenderOk mb' l := by
  have hstored : ∀ {since v}, mb.StoredSince since v → mb'.StoredSince since v := by
    rintro since v ⟨r, hr, hmem⟩
    exact ⟨r, hr, by simp [hstores, hmem]⟩
  cases l with
  | idle => trivial
  | returned since status recv =>
    intro h
    obtain ⟨v, rfl, hv⟩ := hl h
    exact ⟨v, rfl, hstored hv⟩
  | sending since phase =>
    obtain ⟨hb, hsince, hf, hrecv⟩ := hl
    refine ⟨hbusy hb, hsince.trans hfinished, ?_, fun v hv => hstored (hrecv v hv)⟩
    rintro (h | h)
    · exact hfresh since hsince (fun h' => hf (.inl h')) h
    · exact hkept since hsince (hf (.inr h))

/-- A handler step stores a value of its own run, or leaves the stores alone, and
it sets the status only after it stored one. -/
theorem bceMailboxHandleInterrupt_spec {e : MailboxEvent} {mb mb' : BceMailbox}
    (hfresh : mb.HandlerFresh) (hstep : bceMailboxHandleInterrupt e mb = some mb') :
    mb'.HandlerFresh ∧ ∀ l, SenderOk mb l → SenderOk mb' l := by
  cases e with
  | interrupt res =>
    simp only [bceMailboxHandleInterrupt] at hstep
    split at hstep
    · split at hstep
      · next hcount =>
        cases hstep
        refine ⟨?_, fun l hl => hl.handled id le_rfl (List.append_nil _).symm
          (fun _ _ h => h) fun _ _ h => h⟩
        rintro (h | h)
        · exact absurd (MailboxHandler.retrieving.inj h) hcount.ne'
        · cases h
      · next hidle _ =>
        cases hstep
        refine ⟨?_, fun l hl => hl.handled id (Nat.le_succ _) (List.append_nil _).symm
          (fun _ _ h => h) fun _ _ h => h⟩
        rintro (h | h) <;> simp [hidle] at h
    · cases hstep
  | retrieve lo hi =>
    simp only [bceMailboxHandleInterrupt] at hstep
    split at hstep
    · cases hstep
      generalize (hi.setWidth 64 <<< 32) ||| lo.setWidth 64 = result
      refine ⟨fun _ => ⟨mb.finished, mb.stores, rfl, le_rfl⟩, fun l hl => hl.handled id le_rfl rfl
        (fun since hsince _ _ => ?_) fun since hsince _ => ?_⟩
      · exact ⟨mb.finished, mb.stores, rfl, hsince⟩
      · exact ⟨mb.finished, mb.stores, rfl, hsince⟩
    · cases hstep
  | next =>
    simp only [bceMailboxHandleInterrupt] at hstep
    split at hstep
    · next hhandler =>
      cases hstep
      have hrun : mb.Fresh mb.finished := hfresh (.inl hhandler)
      exact ⟨fun _ => hrun, fun l hl => hl.handled (fun _ => by simp) le_rfl
        (List.append_nil _).symm
        (fun since hsince _ _ => hrun.mono hsince) fun _ _ h => h⟩
    · cases hstep
      refine ⟨?_, fun l hl => hl.handled id (Nat.le_succ _) (List.append_nil _).symm
        (fun _ _ h => h) fun _ _ h => h⟩
      rintro (h | h) <;> cases h
    · cases hstep

/-! ## Every run -/

section Runs

variable {ι : Type} [DecidableEq ι] {s : Threads ι BceMailbox Sender}

/-- What every run keeps. -/
theorem mailbox_asserted {G : ThreadAction ι SendChoice MailboxEvent → _ → Prop}
    (h : (mailboxProgram ι).system.Reachable G s) :
    ThreadProgram.Asserted BceMailbox.HandlerFresh (fun _ => SenderOk)
      (fun _ _ => SendersApart) s := by
  refine ThreadProgram.invariant ?_ ?_ ?_ h
  · rintro mb rfl
    refine ⟨?_, fun _ => trivial, fun _ _ h => h.1⟩
    rintro (h | h) <;> cases h
  · intro s i c l mb _ hI _ hstep
    obtain ⟨hsame, hl, heff⟩ := bceMailboxSend_spec (hI.thread i) hstep
    refine ⟨hsame.handlerFresh.mpr hI.shared, hl, fun j hj => ?_⟩
    obtain ⟨hm, happart⟩ := (hI.thread j).other (hI.pair i j hj.symm) hsame heff
    exact ⟨hm, happart, fun h => happart h.symm⟩
  · intro s e mb _ hI _ hstep
    obtain ⟨hP, hkept⟩ := bceMailboxHandleInterrupt_spec hI.shared hstep
    exact ⟨hP, fun i => hkept _ (hI.thread i)⟩

/-- **One sender at a time.** In every state that any number of senders and the
interrupt reach: at most one sender is between its claim of `mb_status` and the
release; a sender that calls while the mailbox is busy, which it is whenever
somebody holds it, returns `-EEXIST` and changes nothing; and a sender that
returned 0 returned a value stored in `mb_result` by a handler run that had not
finished at its claim. -/
theorem mailbox_one_sender (h : (mailboxProgram ι).system.Reachable (fun _ _ => True) s) :
    (∀ i j, (s.thread i).Sending → (s.thread j).Sending → i = j) ∧
    (∀ i msg s', (mailboxProgram ι).step (.run i (.send msg)) s = some s' →
      ((∃ j, (s.thread j).Sending) → s.shared.mbStatus ≠ 0) ∧
      (s.shared.mbStatus ≠ 0 → s'.shared = s.shared ∧
        s'.thread i = .returned s.shared.finished (-EEXIST) none)) ∧
    ∀ i since recv, s.thread i = .returned since 0 recv →
      ∃ v, recv = some v ∧ s.shared.StoredSince since v := by
  have hI := mailbox_asserted h
  refine ⟨fun i j hi hj => ?_, fun i msg s' hstep => ⟨?_, fun hbusy => ?_⟩,
    fun i since recv hret => ?_⟩
  · by_contra hij
    exact hI.pair i j hij ⟨hi, hj⟩
  · rintro ⟨j, hj⟩
    have hj' := hI.thread j
    cases hl : s.thread j with
    | sending since phase =>
      rw [hl] at hj'
      exact hj'.1
    | idle | returned => simp [hl, Sender.Sending] at hj
  · obtain ⟨⟨l, mb⟩, hrun, rfl⟩ := Option.map_eq_some_iff.mp hstep
    have hclaim : mailboxClaim msg s.shared = (l, mb) := by
      cases hl : s.thread i with
      | idle | returned => simpa [mailboxProgram, bceMailboxSend, hl] using hrun
      | sending => simp [mailboxProgram, bceMailboxSend, hl] at hrun
    rw [mailboxClaim, if_pos hbusy] at hclaim
    obtain ⟨rfl, rfl⟩ := Prod.mk.inj hclaim
    exact ⟨rfl, Function.update_self ..⟩
  · have hi := hI.thread i
    rw [hret] at hi
    exact hi rfl

/-! ## The mailbox is free when nobody uses it -/

/-- The handler sets `mb_status` only while it is not 0. -/
def ReplyAwaited : ThreadAction ι SendChoice MailboxEvent → Threads ι BceMailbox Sender → Prop
  | .env .next, s => s.shared.handler = .retrieving 0 → s.shared.mbStatus ≠ 0
  | _, _ => True

/-- A handler step other than that one leaves the status alone. -/
theorem bceMailboxHandleInterrupt_status {e : MailboxEvent} {mb mb' : BceMailbox}
    (hstep : bceMailboxHandleInterrupt e mb = some mb') :
    mb'.mbStatus = mb.mbStatus ∨ e = .next ∧ mb.handler = .retrieving 0 := by
  cases e with
  | interrupt res =>
    simp only [bceMailboxHandleInterrupt] at hstep
    split at hstep
    · split at hstep
      · cases hstep
        exact .inl rfl
      · cases hstep
        exact .inl rfl
    · cases hstep
  | retrieve lo hi =>
    simp only [bceMailboxHandleInterrupt] at hstep
    split at hstep
    · cases hstep
      exact .inl rfl
    · cases hstep
  | next =>
    simp only [bceMailboxHandleInterrupt] at hstep
    split at hstep
    · next hhandler => exact .inr ⟨rfl, hhandler⟩
    · cases hstep
      exact .inl rfl
    · cases hstep

/-- Somebody holds a busy mailbox. -/
theorem mailbox_busy_held (h : (mailboxProgram ι).system.Reachable ReplyAwaited s) :
    s.shared.mbStatus ≠ 0 → ∃ i, (s.thread i).Sending := by
  refine StepSystem.Reachable.invariant
    (I := fun s => s.shared.mbStatus ≠ 0 → ∃ i, (s.thread i).Sending) ?_ ?_ h
  · rintro s ⟨hinit, -⟩ hbusy
    rw [show s.shared = bceMailboxInit from hinit] at hbusy
    exact absurd rfl hbusy
  · intro a s s' hreach hheld hguard hstep hbusy
    obtain ⟨i, c, l, mb, rfl, hrun, rfl⟩ | ⟨e, mb, rfl, henv, rfl⟩ :=
      ThreadProgram.step_cases hstep
    · obtain ⟨-, -, heff⟩ := bceMailboxSend_spec ((mailbox_asserted hreach).thread i) hrun
      cases heff with
      | claimed _ _ hl => exact ⟨i, by simpa using hl⟩
      | released _ _ hfree => exact absurd hfree hbusy
      | kept hstatus hkeep =>
        obtain ⟨j, hj⟩ := hheld (hstatus ▸ hbusy)
        refine ⟨j, ?_⟩
        by_cases hji : j = i
        · subst hji
          simpa using hkeep.mpr hj
        · simpa [Function.update_of_ne hji] using hj
    · refine hheld ?_
      obtain hstatus | ⟨rfl, hhandler⟩ := bceMailboxHandleInterrupt_status henv
      · rwa [hstatus] at hbusy
      · exact hguard hhandler

/-- **The mailbox is free when nobody uses it**, in every run in which the handler
sets `mb_status` only while it is not 0; a send issued then gets it. The handler
need not be idle for that. -/
theorem mailbox_free_when_idle (h : (mailboxProgram ι).system.Reachable ReplyAwaited s)
    (hsenders : ∀ i, ¬(s.thread i).Sending) :
    s.shared.mbStatus = 0 ∧ ∀ i msg, ∃ s',
      (mailboxProgram ι).step (.run i (.send msg)) s = some s' ∧ (s'.thread i).Sending := by
  have hfree : s.shared.mbStatus = 0 := by
    by_contra hbusy
    obtain ⟨i, hi⟩ := mailbox_busy_held h hbusy
    exact hsenders i hi
  refine ⟨hfree, fun i msg => ?_⟩
  have hclaim : bceMailboxSend (.send msg) (s.thread i) s.shared =
      some (.sending s.shared.finished (.claimed msg), { s.shared with mbStatus := 1 }) := by
    cases hl : s.thread i with
    | idle | returned => simp [bceMailboxSend, mailboxClaim, hfree]
    | sending => exact absurd (by simp [hl, Sender.Sending]) (hsenders i)
  exact ⟨_, ThreadProgram.step_run hclaim, by simp [Sender.Sending]⟩

end Runs

instance {ι : Type} : ∀ a s, Decidable (ReplyAwaited (ι := ι) a s)
  | .env .next, s => inferInstanceAs (Decidable (s.shared.handler = _ → s.shared.mbStatus ≠ 0))
  | .env (.interrupt _), _ | .env (.retrieve _ _), _ | .run _ _, _ => .isTrue trivial

/-! ## Runs -/

/-- The reply comes between the claim and the reset of the completion, so the wait
times out and the status says that there is a reply. -/
def earlyReplyRun : List (ThreadAction TwoThreads SendChoice MailboxEvent) :=
  [.run .one (.send 0x3000000000000000), .env (.interrupt 0x100000), .env (.retrieve 7 1),
    .env .next, .env .next, .run .one .next, .run .one .next, .run .one .next, .run .one .next,
    .run .one .next, .run .two (.send 0), .run .one .timeout, .run .one .next, .run .one .next,
    .run .one .next]

def earlyReplyState : Threads TwoThreads BceMailbox Sender :=
  (mailboxProgram TwoThreads).system.after ReplyAwaited earlyReplyRun (mailboxStart TwoThreads)

theorem earlyReplyState_reachable :
    (mailboxProgram TwoThreads).system.Reachable ReplyAwaited earlyReplyState :=
  .after (.of_init ⟨rfl, fun _ => rfl⟩) (by decide +kernel)

/-- Sender one returns the reply of handler run 0; sender two was refused. -/
theorem mailbox_one_sender_of_an_early_reply :
    earlyReplyState.thread .one = .returned 0 0 (some 0x100000007) ∧
      earlyReplyState.thread .two = .returned 1 (-EEXIST) none ∧
      ∃ v, some 0x100000007#64 = some v ∧ earlyReplyState.shared.StoredSince 0 v := by
  have hreturned : earlyReplyState.thread .one = .returned 0 0 (some 0x100000007) := by
    decide +kernel
  have hreach : (mailboxProgram TwoThreads).system.Reachable (fun _ _ => True) earlyReplyState :=
    earlyReplyState_reachable.mono fun _ _ _ => trivial
  exact ⟨hreturned, by decide +kernel, (mailbox_one_sender hreach).2.2 .one 0 _ hreturned⟩

/-- The handler sets the status while sender one holds the mailbox. -/
theorem mailbox_free_when_idle_of_an_early_reply : earlyReplyState.shared.mbStatus = 0 :=
  (mailbox_free_when_idle earlyReplyState_reachable (by decide +kernel)).1

/-- The wait of sender one times out, and its reply comes afterwards. -/
def lateReplyRun : List (ThreadAction TwoThreads SendChoice MailboxEvent) :=
  [.run .one (.send 0x3000000000000000), .run .one .next, .run .one .next, .run .one .next,
    .run .one .next, .run .one .next, .run .one .timeout, .run .one .next, .run .one .next,
    .env (.interrupt 0x100000), .env (.retrieve 7 1), .env .next, .env .next]

def lateReplyState : Threads TwoThreads BceMailbox Sender :=
  (mailboxProgram TwoThreads).system.after (fun _ _ => True) lateReplyRun (mailboxStart TwoThreads)

/-- Nobody uses the mailbox any more, and it stays busy. -/
theorem late_reply_keeps_mailbox_busy :
    ¬∀ s, (mailboxProgram TwoThreads).system.Reachable (fun _ _ => True) s →
      (∀ i, ¬(s.thread i).Sending) → s.shared.handler = .idle → s.shared.mbStatus = 0 := by
  intro h
  have hreach : (mailboxProgram TwoThreads).system.Reachable (fun _ _ => True) lateReplyState :=
    .after (.of_init ⟨rfl, fun _ => rfl⟩) (by decide +kernel)
  have hfree := h lateReplyState hreach (by decide +kernel) (by decide +kernel)
  revert hfree
  decide +kernel

end BceDriver
