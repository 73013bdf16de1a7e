import BceDriver.Vhci.InFlight

/-!
# Elements go to the right queue

An endpoint has the submission queues of its directions: the control endpoint
both, any other its own. `Fits` says what belongs on each of the two.

- `UrbFits`: the queues a linked URB can need are there, and only a
  host-to-device URB waits for a transfer request.
- `Submits`: what a step puts on the queues, for which URB.
- `elements_fit_their_queue`: the runs in which only device-to-host URBs are
  resumed while they wait for data never touch a missing queue.
-/

namespace BceDriver

open FaultState

/-! ## The endpoint stays what it is -/

section Address

variable {q q' : BceVhciTransferQueue} {urb u : Nat} {v : BceVhciUrb}

theorem settle_address (q : BceVhciTransferQueue) (urb u receivedStatus : Nat) :
    (q.settle urb u receivedStatus).bEndpointAddress = q.bEndpointAddress := by
  unfold BceVhciTransferQueue.settle
  split
  · rfl
  · rfl

theorem StartedIn.address {timeout : Nat} (h : StartedIn timeout q urb v q') :
    q'.bEndpointAddress = q.bEndpointAddress := by
  obtain ⟨t, -, -, hq'⟩ := h.slot
  rw [hq']
  rfl

theorem Waited.address (h : Waited q q') : q'.bEndpointAddress = q.bEndpointAddress := by
  rw [h.frame]

theorem UpdateEffect.address {msg : BceVhciMessage} {r : Int} (h : UpdateEffect q urb v msg r q') :
    q'.bEndpointAddress = q.bEndpointAddress := by
  cases h with
  | outSettled => exact settle_address ..
  | settled => exact settle_address ..
  | _ => rfl

theorem CompletionEffect.address {c : BceSqCompletionData} (h : CompletionEffect q urb v c q') :
    q'.bEndpointAddress = q.bEndpointAddress := by
  cases h with
  | doneSettled => exact settle_address ..
  | settled => exact settle_address ..
  | startedIn _ _ _ h => exact h.address
  | startFailed _ _ _ h => exact h.waited.address
  | _ => rfl

theorem InitEffect.address {r : Int} (h : InitEffect q urb v r q') :
    q'.bEndpointAddress = q.bEndpointAddress := by
  cases h with
  | startedIn _ _ h => exact h.address
  | failed _ _ h => exact h.waited.address
  | _ => rfl

theorem ResumeEffect.address (h : ResumeEffect q urb v q') :
    q'.bEndpointAddress = q.bEndpointAddress := by
  cases h with
  | unchanged => rfl
  | init _ h => exact h.address
  | restarted _ h => exact h.address
  | failed _ h => exact h.waited.address

theorem CreateEffect.address {r : Int} (h : CreateEffect q u r q') :
    q'.bEndpointAddress = q.bEndpointAddress := by
  cases h with
  | active _ h => exact h.address
  | failed _ _ h => exact h.address
  | _ => rfl

theorem StepEffect.address {s s' : Endpoint} {a : EndpointAction} (h : StepEffect s a s') :
    s'.q.bEndpointAddress = s.q.bEndpointAddress := by
  cases h with
  | quiet _ hq => rw [hq.flags.frame]
  | enqueued _ _ _ heff => exact heff.address
  | refused _ _ _ _ heff => exact heff.address
  | delivered _ heff =>
    cases heff with
    | idle => rfl
    | blocked _ _ hup => exact hup.address
    | delivered _ _ hup => exact hup.address
  | completed _ heff =>
    cases heff with
    | idle => rfl
    | skipped => rfl
    | completed _ _ _ _ heff => exact heff.address
  | event _ heff =>
    cases heff with
    | dropped => rfl
    | queued => rfl
    | deferred _ _ hup => exact hup.address
    | updated _ _ hup => exact hup.address
  | resumed _ _ _ heff => exact heff.address
  | _ => rfl

end Address

/-- A step creates and destroys no submission queue. -/
theorem StepEffect.sqs_none {s s' : Endpoint} {a : EndpointAction} (h : StepEffect s a s')
    (d : DmaDataDirection) : s'.q.sqs d = none ↔ s.q.sqs d = none := by
  cases h with
  | quiet _ hq => rw [hq.flags.sqs]
  | enqueued _ _ _ heff => exact heff.adds.none_iff
  | refused _ _ _ _ heff => exact heff.adds.none_iff
  | delivered _ heff => exact heff.adds.none_iff
  | completed _ heff =>
    cases heff with
    | idle => rfl
    | skipped ht => exact setSq_none ht
    | completed ht _ _ _ heff ht' =>
      exact (setSq_none ht').trans (heff.adds.none_iff.trans (setSq_none ht))
  | event _ heff => exact heff.adds.none_iff
  | resumed _ _ _ heff => exact heff.adds.none_iff
  | device ht => exact setSq_none ht
  | _ => rfl

/-! ## What belongs on a queue -/

/-- What an element of a queue may describe, for the URB it is submitted for:
data of its direction, and on `sq_out` the setup packet of a control URB. -/
def Fits : DmaDataDirection → TransferElement → BceVhciUrb → Prop
  | .fromDevice, e, v => e.kind = .data ∧ v.dir = .fromDevice
  | .toDevice, e, v =>
    (e.kind = .setup ∧ e.length = usbCtrlrequestSize ∧ v.isControl = true) ∨
      (e.kind = .data ∧ v.dir = .toDevice)

/-- The elements that fit their queue, of the `bce_vhci_urb` at `urb`. -/
abbrev FitsFor (urb : Nat) (v : BceVhciUrb) : DmaDataDirection → TransferElement → Prop :=
  fun d e => e.owner = urb ∧ Fits d e v

/-- The queues the URB can need are there, and it waits for a transfer request only
if its data goes to the device. -/
structure UrbFits (sqs : DmaDataDirection → Option TransferSq) (urb : Nat) (v : BceVhciUrb) :
    Prop where
  own : sqs v.dir ≠ none
  setup : v.isControl = true → sqs .toDevice ≠ none
  request : v.state = .waitingForTransferRequest → v.dir = .toDevice

section Fits

variable {q q' : BceVhciTransferQueue} {urb u : Nat} {v v' : BceVhciUrb}

/-- A URB that takes a transfer request has an `sq_out` to answer it on. -/
theorem UrbFits.out {sqs : DmaDataDirection → Option TransferSq} (h : UrbFits sqs urb v)
    (hacc : v.AcceptsRequest) : sqs .toDevice ≠ none := by
  rcases hacc with hs | ⟨hc, -⟩
  · rw [← h.request hs]
    exact h.own
  · exact h.setup hc

theorem inElement_fits (hdir : v.dir = .fromDevice) :
    FitsFor urb v .fromDevice (inElement q urb v) := ⟨rfl, rfl, hdir⟩

theorem setupElement_fits (hc : v.isControl = true) :
    FitsFor urb v .toDevice (setupElement q urb v) := ⟨rfl, .inl ⟨rfl, rfl, hc⟩⟩

theorem outElement_fits (hdir : v.dir = .toDevice) (size : Nat) :
    FitsFor urb v .toDevice (outElement q urb v size) := ⟨rfl, .inr ⟨rfl, hdir⟩⟩

/-- An element that fits is submitted. -/
theorem adds_of_put {P : DmaDataDirection → TransferElement → Prop} {d : DmaDataDirection}
    {t : TransferSq} {e : TransferElement} (ht : q.sqs d = some t)
    (hpos : 0 < t.sq.availableCommands) (he : P d e) : Adds P q (q.setSq d (t.put e)) :=
  .of_setSq ht (.of_put e hpos) (List.forall_mem_singleton.mpr he)

theorem StartedIn.fits {timeout : Nat} (h : StartedIn timeout q urb v q')
    (hdir : v.dir = .fromDevice) : Adds (FitsFor urb v) q q' := by
  obtain ⟨t, ht, hpos, hq'⟩ := h.slot
  rw [hq']
  exact (adds_of_put ht hpos (inElement_fits hdir)).trans (.of_sqs rfl)

/-- What a message makes a URB submit fits. -/
theorem UpdateEffect.fits {msg : BceVhciMessage} {r : Int} (hfit : UrbFits q.sqs urb v)
    (h : UpdateEffect q urb v msg r q') : Adds (FitsFor urb v) q q' := by
  cases h with
  | deferred => exact .refl q
  | refused => exact .refl q
  | setup hc _ _ ht hpos =>
    exact (adds_of_put ht hpos (setupElement_fits hc)).trans (.of_sqs rfl)
  | out hs _ ht hpos =>
    exact (adds_of_put ht hpos (outElement_fits (hfit.request hs) _)).trans (.of_sqs rfl)
  | outSettled _ hs _ ht hpos =>
    exact (adds_of_put ht hpos (outElement_fits (hfit.request hs) _)).trans
      (.of_sqs (settle_sqs ..))
  | status => exact .of_sqs rfl
  | settled => exact .of_sqs (settle_sqs ..)

theorem CompletionEffect.fits {c : BceSqCompletionData} (h : CompletionEffect q urb v c q') :
    Adds (FitsFor urb v) q q' := by
  cases h with
  | ignored => exact .refl q
  | doneSettled => exact .of_sqs (settle_sqs ..)
  | settled => exact .of_sqs (settle_sqs ..)
  | startedIn _ _ hdir h => exact h.fits hdir
  | startFailed _ _ _ h => exact (Adds.of_waited h.waited).trans (.of_sqs rfl)
  | _ => exact .of_sqs rfl

theorem InitEffect.fits {r : Int} (h : InitEffect q urb v r q') : Adds (FitsFor urb v) q q' := by
  cases h with
  | control => exact .of_sqs rfl
  | out => exact .of_sqs rfl
  | startedIn _ hdir h => exact h.fits hdir
  | failed _ _ h => exact .of_waited h.waited

/-- So does what a resume makes it submit, if its data comes from the device. -/
theorem ResumeEffect.fits (h : ResumeEffect q urb v q')
    (hin : v.state = .waitingForCompletion → CanStartIn 0 q → v.dir = .fromDevice) :
    Adds (FitsFor urb v) q q' := by
  cases h with
  | unchanged => exact .refl q
  | init _ h => exact h.fits
  | restarted hs h => exact h.fits (hin hs h.can)
  | failed _ h => exact (Adds.of_waited h.waited).trans (.of_sqs rfl)

/-! ## A handler leaves its URB fitting -/

/-- `v'` is `v` later on: it goes the same way, and only a host-to-device URB began
to wait for a transfer request. -/
structure SameKind (v v' : BceVhciUrb) : Prop where
  dir : v'.dir = v.dir
  isControl : v'.isControl = v.isControl
  request : v'.state = .waitingForTransferRequest →
    v.state = .waitingForTransferRequest ∨ v.dir = .toDevice

theorem SameKind.refl (v : BceVhciUrb) : SameKind v v := ⟨rfl, rfl, .inl⟩

theorem UrbFits.sameKind {sqs sqs' : DmaDataDirection → Option TransferSq}
    (h : UrbFits sqs urb v) (hsqs : ∀ d, sqs' d = none ↔ sqs d = none) (hv : SameKind v v') :
    UrbFits sqs' urb v' where
  own := by
    rw [hv.dir, ne_eq, hsqs]
    exact h.own
  setup := by
    rw [hv.isControl, ne_eq, hsqs]
    exact h.setup
  request := by
    intro hs
    rw [hv.dir]
    exact (hv.request hs).elim h.request id

theorem StartedIn.sameKind {timeout : Nat} (h : StartedIn timeout q urb v q') :
    LeavesUrb (SameKind v) urb q q' :=
  .startedIn h ⟨rfl, rfl, by simp⟩

theorem UpdateEffect.sameKind {msg : BceVhciMessage} {r : Int} (hv : q.vurbs urb = some v)
    (h : UpdateEffect q urb v msg r q') : LeavesUrb (SameKind v) urb q q' := by
  cases h with
  | deferred => exact .kept hv rfl (.refl v)
  | refused => exact .kept hv rfl (.refl v)
  | setup => exact .stored rfl ⟨rfl, rfl, by simp⟩
  | out => exact .stored rfl ⟨rfl, rfl, by simp [BceVhciUrb.sentOut]⟩
  | outSettled => exact .freed (settle_vurbs ..)
  | status => exact .stored rfl ⟨rfl, rfl, .inl⟩
  | settled => exact .freed (settle_vurbs ..)

theorem CompletionEffect.sameKind {c : BceSqCompletionData} (hv : q.vurbs urb = some v)
    (h : CompletionEffect q urb v c q') : LeavesUrb (SameKind v) urb q q' := by
  cases h with
  | ignored => exact .kept hv rfl (.refl v)
  | progress => exact .stored rfl ⟨rfl, rfl, .inl⟩
  | dataDone => exact .stored rfl ⟨rfl, rfl, by simp⟩
  | done => exact .freed rfl
  | doneSettled => exact .freed (settle_vurbs ..)
  | settled => exact .freed (settle_vurbs ..)
  | startedIn _ _ _ h => exact h.sameKind
  | startFailed _ _ _ h => exact .startFailed h ..
  | startedOut _ _ hdir => exact .stored rfl ⟨rfl, rfl, fun _ => .inr hdir⟩

theorem InitEffect.sameKind {r : Int} (hv : q.vurbs urb = some v) (h : InitEffect q urb v r q') :
    LeavesUrb (SameKind v) urb q q' := by
  cases h with
  | control => exact .stored rfl ⟨rfl, rfl, by simp⟩
  | out _ hdir => exact .stored rfl ⟨rfl, rfl, fun _ => .inr hdir⟩
  | startedIn _ _ h => exact h.sameKind
  | failed _ _ h => exact .kept hv h.waited.vurbs (.refl v)

theorem ResumeEffect.sameKind (hv : q.vurbs urb = some v) (h : ResumeEffect q urb v q') :
    LeavesUrb (SameKind v) urb q q' := by
  cases h with
  | unchanged => exact .kept hv rfl (.refl v)
  | init _ h => exact h.sameKind hv
  | restarted _ h => exact h.sameKind
  | failed _ h => exact .startFailed h ..

end Fits

theorem Fits.sameKind {d : DmaDataDirection} {e : TransferElement} {v v' : BceVhciUrb}
    (h : Fits d e v) (hv : SameKind v v') : Fits d e v' := by
  cases d with
  | fromDevice => exact ⟨h.1, hv.dir.trans h.2⟩
  | toDevice =>
    exact h.imp (fun h => ⟨h.1, h.2.1, hv.isControl.trans h.2.2⟩) fun h => ⟨h.1, hv.dir.trans h.2⟩

/-! ## What a step submits -/

/-- Elements for which `P` holds were submitted, and no others. -/
def Grows (P : DmaDataDirection → TransferElement → Prop) (q q' : BceVhciTransferQueue) : Prop :=
  ∀ d t t', q.sqs d = some t → q'.sqs d = some t' → ∃ es,
    t'.submitted = t.submitted ++ es ∧ ∀ e ∈ es, P d e

namespace Grows

variable {P P' : DmaDataDirection → TransferElement → Prop} {q q₁ q' : BceVhciTransferQueue}

theorem of_adds (h : Adds P' q q') (hP : ∀ d e, P' d e → P d e) : Grows P q q' := by
  intro d t t' ht ht'
  obtain ⟨t₁, es, ht₁, hadd, hes⟩ := h.some ht
  obtain rfl := Option.some.inj (ht'.symm.trans ht₁)
  exact ⟨es, hadd.submitted, fun e he => hP d e (hes e he)⟩

theorem of_sqs (h : q'.sqs = q.sqs) : Grows P q q' :=
  of_adds (Adds.of_sqs h) fun _ _ h => h

/-- A queue is replaced by one with the same elements submitted. -/
theorem of_setSq {d : DmaDataDirection} {t t' : TransferSq} (ht : q.sqs d = some t)
    (hsub : t'.submitted = t.submitted) : Grows P q (q.setSq d t') := by
  intro d' t₁ t₂ h₁ h₂
  refine ⟨[], ?_, by simp⟩
  rw [List.append_nil]
  by_cases hd : d' = d
  · subst hd
    obtain rfl := Option.some.inj (ht.symm.trans h₁)
    obtain rfl : t' = t₂ := by simpa using h₂
    exact hsub
  · rw [BceVhciTransferQueue.setSq_sqs, Function.update_of_ne hd, h₁] at h₂
    rw [Option.some.inj h₂]

theorem trans (h : Grows P q q₁) (h' : Grows P q₁ q')
    (hnone : ∀ d, q₁.sqs d = none ↔ q.sqs d = none) : Grows P q q' := by
  intro d t t' ht ht'
  cases ht₁ : q₁.sqs d with
  | none => simp [(hnone d).mp ht₁] at ht
  | some t₁ =>
    obtain ⟨es, hsub, hes⟩ := h d t t₁ ht ht₁
    obtain ⟨es', hsub', hes'⟩ := h' d t₁ t' ht₁ ht'
    exact ⟨es ++ es', by rw [hsub', hsub, List.append_assoc],
      List.forall_mem_append.mpr ⟨hes, hes'⟩⟩

end Grows

/-- The step submitted on each queue only elements that fit it, for a URB that had
its `bce_vhci_urb` before the step or has it now. -/
def Submits (s s' : Endpoint) : Prop :=
  Grows (fun d e => ∃ v, (s.q.vurbs e.owner = some v ∨ s'.q.vurbs e.owner = some v) ∧ Fits d e v)
    s.q s'.q

/-- A handler of one URB. -/
theorem Submits.of_fits {s s' : Endpoint} {urb : Nat} {v : BceVhciUrb}
    (hv : s.q.vurbs urb = some v) (h : Adds (FitsFor urb v) s.q s'.q) : Submits s s' := by
  refine .of_adds h ?_
  rintro d e ⟨rfl, hfit⟩
  exact ⟨v, .inl hv, hfit⟩

/-- The device submits nothing. -/
theorem DeviceEffect.submitted {t t' : TransferSq} (h : DeviceEffect t t') :
    t'.submitted = t.submitted := by
  cases h with
  | complete => rfl
  | abort => rfl
  | accept => rfl

theorem CompletionRoundEffect.submits {s s' : Endpoint} {d : DmaDataDirection} {more : Bool}
    (heff : CompletionRoundEffect s.q d more s'.q) : Submits s s' := by
  unfold Submits
  generalize hq' : s'.q = q' at heff ⊢
  cases heff with
  | idle => exact .of_sqs rfl
  | skipped ht => exact .of_setSq ht rfl
  | @completed t t' c sq u urb v q₁ ht _ _ hhead heff ht' =>
    have hconsume : ∀ d', (s.q.consume d t sq).sqs d' = none ↔ s.q.sqs d' = none :=
      fun d' => setSq_none ht
    have hround : ∀ d', q₁.sqs d' = none ↔ s.q.sqs d' = none :=
      fun d' => heff.adds.none_iff.trans (hconsume d')
    refine .trans (.trans
      (.of_setSq ht (rfl : { t with sq, pending := t.pending.tail }.submitted = _))
      (.of_adds heff.fits ?_) hconsume) (.of_setSq ht' rfl) hround
    rintro d' e ⟨rfl, hfit⟩
    exact ⟨v, .inl hhead.vurb, hfit⟩

theorem CreateEffect.submits {s s' : Endpoint} {u : Nat} {request : UrbRequest} {r : Int}
    (heff : CreateEffect (s.q.fill u request) u r s'.q) : Submits s s' := by
  unfold Submits
  generalize hq' : s'.q = q' at heff ⊢
  have hv : ((s.q.fill u request).link u).vurbs s.q.nextVurb =
      some (freshVurb (s.q.fill u request) u) := Function.update_self ..
  cases heff with
  | refused => exact .of_sqs rfl
  | active _ hi =>
    obtain ⟨x, hx, hkind⟩ := hi.sameKind hv
    obtain ⟨v', hv'⟩ := hi.allocated hv
    refine .of_adds ((Adds.of_sqs rfl).trans hi.fits) ?_
    rintro d e ⟨howner, hfit⟩
    have howner' : e.owner = s.q.nextVurb := howner
    rw [howner']
    refine ⟨v', .inr hv', hfit.sameKind (hkind v' ?_)⟩
    have hself := hv'
    rw [hx, Function.update_self] at hself
    exact hself
  | failed _ hr hi =>
    cases hi with
    | control => exact absurd rfl hr
    | out => exact absurd rfl hr
    | startedIn => exact absurd rfl hr
    | failed _ _ hf =>
      have hadds : Adds (fun _ _ => False) s.q _ :=
        ((Adds.of_sqs rfl).trans (.of_waited hf.waited)).trans (.of_sqs rfl)
      exact .of_adds hadds fun _ _ h => h.elim
  | paused => exact .of_sqs rfl

/-! ## All runs -/

/-- A URB that waits for data when it is resumed is a device-to-host one, unless
there is no slot to ask for the data with. -/
def RoundInbound : LockOp → BceVhciTransferQueue → Prop
  | .resume us, q => ∀ u ∈ us.head?, ∀ urb ∈ (q.urbs u).hcpriv, ∀ v ∈ q.vurbs urb,
      v.state = .waitingForCompletion → v.dir = .fromDevice ∨ asyncReservation 0 q ≠ 0 ∨
        ∃ t ∈ q.sqs .fromDevice, t.sq.availableCommands ≤ 0
  | _, _ => True

instance : ∀ op q, Decidable (RoundInbound op q)
  | .resume us, q => inferInstanceAs (Decidable (∀ u ∈ us.head?, ∀ urb ∈ (q.urbs u).hcpriv, _))
  | .deliver, _ | .event _, _ | .completions _, _ | .giveback, _ | .back, _ => .isTrue trivial

/-- The submission queues every operation can need are there. -/
structure Fitted (s : Endpoint) : Prop where
  linked : EveryLinked UrbFits s.q
  control : s.q.isControl = true → ∀ d, s.q.sqs d ≠ none
  completions : ∀ d, .completions d ∈ s.lock → s.q.sqs d ≠ none

section Runs

variable {s s' : Endpoint} {a : EndpointAction}

/-- A round of the lock holder starts no handler of completions. -/
theorem lockStep_completions (hstep : s.lockStep = some s') (d : DmaDataDirection) :
    .completions d ∈ s'.lock → .completions d ∈ s.lock := by
  have hexec : ∀ {α : Type} (m : TransferM α) (k : α → BceVhciTransferQueue → Endpoint),
      (∀ a q, .completions d ∈ (k a q).lock → .completions d ∈ s.lock) →
      .completions d ∈ (s.exec m k).lock → .completions d ∈ s.lock := fun m k hk =>
    Endpoint.exec_any (Q := fun s' => .completions d ∈ s'.lock → .completions d ∈ s.lock) hk
      fun _ => id
  cases lockStep_branch hstep with
  | deliver hops | completions hops =>
    refine hexec _ _ fun more q => ?_
    rw [hops]
    split
    · exact id
    · exact List.mem_cons_of_mem _
  | event hops =>
    refine hexec _ _ fun _ q => ?_
    rw [hops]
    exact List.mem_cons_of_mem _
  | resume hops =>
    refine hexec _ _ fun _ q hd => ?_
    rw [hops]
    exact List.mem_cons_of_mem _ ((List.mem_cons.mp hd).resolve_left (by simp))
  | resumed hops | giveback hops | back hops =>
    rw [hops]
    exact List.mem_cons_of_mem _

/-- A step of the work item starts none either. -/
theorem workStep_completions {reply : CommandOutcome} {aborted : Nat}
    (hstep : s.workStep reply aborted = some s') (d : DmaDataDirection) :
    .completions d ∈ s'.lock → .completions d ∈ s.lock := by
  have hexec : ∀ {α : Type} (m : TransferM α) (k : α → BceVhciTransferQueue → Endpoint),
      (∀ a q, .completions d ∈ (k a q).lock → .completions d ∈ s.lock) →
      .completions d ∈ (s.exec m k).lock → .completions d ∈ s.lock := fun m k hk =>
    Endpoint.exec_any (Q := fun s' => .completions d ∈ s'.lock → .completions d ∈ s.lock) hk
      fun _ => id
  cases workStep_branch hstep with
  | deactivate | removePending | flush | kfree | resumeCommand => exact hexec _ _ fun _ _ => id
  | pauseCommand =>
    refine hexec _ _ fun status q => ?_
    split
    · exact id
    · exact id
  | remove =>
    refine hexec _ _ fun r q => ?_
    split
    · split
      · simp
      · simp
    · exact id
  | activate => exact hexec _ _ fun _ _ => by simp
  | giveback | resumeUnlessFwPaused | returnUnlessStalled | resetCommand | clearStalled
  | setFwPaused | stall => exact id

/-- The handler of completions only runs on a queue that is there. -/
theorem step_completions (hstep : Endpoint.step a s = some s') (d : DmaDataDirection)
    (hd : .completions d ∈ s'.lock) : .completions d ∈ s.lock ∨ s.q.sqs d ≠ none := by
  cases (step_branch hstep).2 with
  | lockStep hlock => exact .inl (lockStep_completions hlock d hd)
  | workStep hwork => exact .inl (workStep_completions hwork d hd)
  | completion _ hsq =>
    obtain rfl := by simpa using hd
    exact .inr hsq
  | @enqueue u request linked =>
    revert hd
    refine Endpoint.exec_any (s := { s with q := s.q.fill u request })
      (Q := fun s' => .completions d ∈ s'.lock → .completions d ∈ s.lock ∨ s.q.sqs d ≠ none)
      (fun status q => ?_) fun _ => .inl
    dsimp only
    split
    · simp
    · exact .inl
  | dequeue =>
    revert hd
    refine Endpoint.exec_any (s := s)
      (Q := fun s' => .completions d ∈ s'.lock → .completions d ∈ s.lock ∨ s.q.sqs d ≠ none)
      (fun ret q => ?_) fun _ => .inl
    exact .inl
  | event => simp at hd
  | endpointReset | pop | leave | give | startCancel | startReset | startFirmware | complete
  | accept | async => exact .inl hd

/-- The first URB on the list is one that owns its `bce_vhci_urb`. -/
theorem Live.of_headVurb {q : BceVhciTransferQueue} {v : BceVhciUrb} (h : q.Live)
    (hv : v ∈ q.headVurb) : ∃ u urb, u ∈ q.urbList ∧ q.Has u urb v := by
  unfold BceVhciTransferQueue.headVurb at hv
  cases hl : q.urbList with
  | nil => simp [hl] at hv
  | cons u us =>
    obtain ⟨urb, v', hhead⟩ := BceVhciTransferQueue.Live.head h hl
    obtain rfl : v' = v := by simpa [hl, hhead.hcpriv, hhead.vurb] using hv
    exact ⟨u, urb, List.mem_cons_self, hhead.toHas⟩

theorem Fitted.lockStep (hown : Owned s) (h : Fitted s)
    (hguard : AtLockStep RoundInbound .lockStep s) (hf : s.fault = none)
    (hstep : s.lockStep = some s') : s'.fault = none := by
  have hhead : ∀ v ∈ s.q.headVurb, ∃ urb, UrbFits s.q.sqs urb v := by
    intro v hv
    obtain ⟨u, urb, hu, hhas⟩ := Live.of_headVurb hown.live hv
    exact ⟨urb, h.linked u hu urb v hhas⟩
  cases lockStep_branch hstep with
  | deliver =>
    refine Endpoint.exec_ok (Q := fun s' => s'.fault = none)
      (deliverRound_spec hown.live fun v hv msg _ hacc _ hnone => ?_) fun more q' heff => hf
    obtain ⟨urb, hfit⟩ := hhead v hv
    exact hfit.out hacc hnone
  | @completions d ops hops =>
    refine Endpoint.exec_ok (Q := fun s' => s'.fault = none)
      (completionRound_spec hown.live d (fun hnone => ?_) fun v hv hdir hnone => ?_)
      fun more q' heff => hf
    · exact h.completions d (by simp [hops]) hnone
    · obtain ⟨urb, hfit⟩ := hhead v hv
      exact hfit.own (hdir ▸ hnone)
  | event =>
    refine Endpoint.exec_ok (Q := fun s' => s'.fault = none)
      (eventBody_spec hown.live _ fun v hv hacc hnone => ?_) fun _ q' heff => hf
    obtain ⟨urb, hfit⟩ := hhead v hv
    exact hfit.out hacc hnone
  | @resume u us ops hops =>
    have hu : u ∈ s.q.urbList := hown.resuming.2 u (by simp [Endpoint.resuming, hops])
    obtain ⟨v, hhas⟩ := hown.linked u hu
    have hfit := h.linked u hu _ v hhas
    refine Endpoint.exec_ok (Q := fun s' => s'.fault = none)
      (resumeUrb_spec hhas fun hneeds hnone => ?_) fun _ q' heff => hf
    -- the guard excludes a host-to-device URB that would be restarted on `sq_in`
    have hdir : v.dir = .fromDevice := by
      rcases hneeds with ⟨-, hdir⟩ | ⟨hs, hr⟩
      · exact hdir
      rcases hguard.head hops u rfl _ hhas.hcpriv v hhas.vurb hs with hdir | hr' | ⟨t, ht, -⟩
      · exact hdir
      · exact absurd hr hr'
      · simp [hnone] at ht
    exact hfit.own (hdir ▸ hnone)
  | resumed | giveback | back => exact hf

theorem EveryLinked.fits {q q' : BceVhciTransferQueue} {u urb : Nat} {v : BceVhciUrb}
    (h : EveryLinked UrbFits q) (hnodup : q.urbList.Nodup) (hu : u ∈ q.urbList)
    (hhas : q.Has u urb v) (hheap : SameHeap q q' ∨ Ended q urb v.urb q')
    (hnone : ∀ d, q'.sqs d = none ↔ q.sqs d = none)
    (hx : LeavesUrb (SameKind v) urb q q') :
    EveryLinked UrbFits q' := by
  obtain ⟨x, hv, hkind⟩ := hx
  exact h.touches (.of_heap hnodup hheap hv)
    (fun urb' v' _ hfit => hfit.sameKind hnone (.refl v'))
    fun v' hv' => (h u hu urb v hhas).sameKind hnone (hkind v' hv')

theorem EveryLinked.of_none {q q' : BceVhciTransferQueue} (h : EveryLinked UrbFits q)
    (hlist : q'.urbList = q.urbList) (hurbs : q'.urbs = q.urbs) (hvurbs : q'.vurbs = q.vurbs)
    (hnone : ∀ d, q'.sqs d = none ↔ q.sqs d = none) : EveryLinked UrbFits q' :=
  h.of_sqs hlist hurbs hvurbs fun _ v hfit => hfit.sameKind hnone (.refl v)

theorem CompletionRoundEffect.urbFits {q q' : BceVhciTransferQueue} {d : DmaDataDirection}
    {more : Bool} (hnodup : q.urbList.Nodup) (h : EveryLinked UrbFits q)
    (heff : CompletionRoundEffect q d more q') : EveryLinked UrbFits q' := by
  cases heff with
  | idle => exact h
  | skipped ht => exact h.of_none rfl rfl rfl fun d' => setSq_none ht
  | @completed t t' c sq u urb v q₁ ht _ _ hhead heff ht' =>
    have hcons : EveryLinked UrbFits (q.consume d t sq) :=
      h.of_none rfl rfl rfl fun d' => setSq_none ht
    have hhas : (q.consume d t sq).Has u urb v := (hhead.consume d t sq).toHas
    have hmem : u ∈ q.urbList := Head.mem hhead
    have hround : EveryLinked UrbFits q₁ :=
      hcons.fits hnodup hmem hhas (heff.heap hhas.vurb) (fun d => heff.adds.none_iff)
        (heff.sameKind hhas.vurb)
    exact hround.of_none rfl rfl rfl fun d' => setSq_none ht'

/-- A new URB has the queues the endpoint was checked to have. -/
theorem fresh_fits (h : Fitted s) {u urb : Nat} {request : UrbRequest} (hsup : s.Supports request) :
    UrbFits s.q.sqs urb (freshVurb (s.q.fill u request) u) where
  own := by
    simpa [freshVurb, BceVhciTransferQueue.fill] using hsup.1
  setup := fun hc => h.control hc .toDevice
  request := by simp [freshVurb]

theorem CreateEffect.urbFits {q q' : BceVhciTransferQueue} {u : Nat} {r : Int}
    (heff : CreateEffect q u r q') (h : EveryLinked UrbFits q)
    (hfresh : UrbFits q.sqs q.nextVurb (freshVurb q u)) : EveryLinked UrbFits q' := by
  refine h.create hfresh (fun hlink q' r hi => ?_) heff
  have hv : (q.link u).vurbs q.nextVurb = some (freshVurb q u) := Function.update_self ..
  obtain ⟨x, hx, hkind⟩ := hi.sameKind hv
  have hnone : ∀ d, q'.sqs d = none ↔ q.sqs d = none := fun d => hi.adds.none_iff
  exact hlink.touches (.of_same (hi.heap hv) hx)
    (fun urb' v' _ hfit => hfit.sameKind hnone (.refl v'))
    fun v' hv' => hfresh.sameKind hnone (hkind v' hv')

/-- **The needed queues are there**, in every run. -/
theorem reachable_fitted {G : EndpointAction → Endpoint → Prop} {s : Endpoint}
    (h : endpointSystem.Reachable G s) : Fitted s := by
  refine StepSystem.Reachable.invariant (I := Fitted) ?_ ?_ h
  · rintro s ⟨address, devAddr, qidIn, qidOut, urbs, m, w, rfl⟩
    refine ⟨fun u hu => ?_, fun hc d => ?_, fun d hd => ?_⟩
    · simp [Endpoint.start, bceVhciCreateTransferQueue] at hu
    · have hzero : address &&& 0x0F = 0 := of_decide_eq_true hc
      cases d with
      | toDevice => simp [Endpoint.start, bceVhciCreateTransferQueue, hzero]
      | fromDevice => simp [Endpoint.start, bceVhciCreateTransferQueue, hzero]
    · simp [Endpoint.start] at hd
  · intro a s s' hreach hfit _ hstep
    have howned := reachable_owned hreach
    have hnodup := howned.urbList_nodup
    have heff := step_spec howned hstep
    refine ⟨?_, fun hc d => ?_, fun d hd => ?_⟩
    · have hupdate : ∀ {u urb v msg r q'}, s.q.Head u urb v → UpdateEffect s.q urb v msg r q' →
          EveryLinked UrbFits q' := fun {u urb v msg r q'} hhead hup =>
        hfit.linked.fits hnodup (Head.mem hhead) hhead.toHas (hup.heap hhead.vurb)
          (fun d => hup.adds.none_iff) (hup.sameKind hhead.vurb)
      refine hfit.linked.step heff (fun u request _ r q' _ _ hsup hcreate hfill => ?_)
        (fun more q' hround => ?_) (fun d ops more q' _ _ hround => ?_) (fun msg q' hround => ?_)
        (fun u us ops urb v q' _ _ hu hhas hround => ?_) (fun d t t' ht _ => ?_)
      · exact hcreate.urbFits hfill (fresh_fits hfit hsup)
      · exact hfit.linked.deliver hupdate hround
      · exact hround.urbFits hnodup hfit.linked
      · exact hfit.linked.event hupdate hround
      · exact hfit.linked.fits hnodup hu hhas (hround.heap hhas.vurb)
          (fun d => hround.adds.none_iff) (hround.sameKind hhas.vurb)
      · exact hfit.linked.of_none rfl rfl rfl fun d' => setSq_none ht
    · rw [ne_eq, heff.sqs_none]
      refine hfit.control ?_ d
      unfold BceVhciTransferQueue.isControl at hc ⊢
      rwa [← heff.address]
    · rw [ne_eq, heff.sqs_none]
      exact (step_completions hstep d hd).elim (hfit.completions d) id

/-- **Elements go to the right queue.** In every run that resumes only
device-to-host URBs while they wait for data, no step uses a submission queue the
endpoint does not have, and every element a step submits fits its queue. -/
theorem elements_fit_their_queue {s s' : Endpoint} {a : EndpointAction}
    (h : endpointSystem.Reachable (AtLockStep RoundInbound) s)
    (hguard : AtLockStep RoundInbound a s) (hstep : Endpoint.step a s = some s') :
    s'.fault = none ∧ Submits s s' := by
  have howned := reachable_owned h
  have hfit := reachable_fitted h
  have hf : s.fault = none := by
    by_contra hne
    simp [Endpoint.step, hne] at hstep
  have hupdate : ∀ {u urb v msg r q'} {s' : Endpoint}, s.q.Head u urb v →
      UpdateEffect s.q urb v msg r q' → s'.q.sqs = q'.sqs → Submits s s' := by
    intro u urb v msg r q' s' hhead hup hsqs
    exact .of_fits hhead.vurb ((hup.fits (hfit.linked u (Head.mem hhead) urb v hhead.toHas)).trans
      (.of_sqs hsqs))
  cases step_spec howned hstep with
  | died hl =>
    -- a step that dies uses a queue that is not there
    have hdied := hfit.lockStep howned hguard hf (by simpa [Endpoint.step, hf] using hstep)
    cases hdied
  | quiet hf' hq => exact ⟨hf', .of_sqs hq.flags.sqs⟩
  | enqueued _ _ _ heff => exact ⟨hf, heff.submits⟩
  | refused _ _ _ _ heff => exact ⟨hf, heff.submits⟩
  | delivered _ heff =>
    refine ⟨hf, ?_⟩
    cases heff with
    | idle => exact .of_sqs rfl
    | blocked hhead _ hup => exact hupdate hhead hup rfl
    | delivered hhead _ hup => exact hupdate hhead hup rfl
  | completed _ heff => exact ⟨hf, heff.submits⟩
  | event _ heff =>
    refine ⟨hf, ?_⟩
    cases heff with
    | dropped => exact .of_sqs rfl
    | queued => exact .of_sqs rfl
    | deferred hhead _ hup => exact hupdate hhead hup rfl
    | updated hhead _ hup => exact hupdate hhead hup rfl
  | @resumed u urb us v ops q' hops hu hhas heff =>
    refine ⟨hf, .of_fits hhas.vurb (heff.fits fun hs hcan => ?_)⟩
    rcases hguard.head hops u rfl urb hhas.hcpriv v hhas.vurb hs with hdir | hr | ⟨t, ht, hle⟩
    · exact hdir
    · exact absurd hcan.1 hr
    · obtain ⟨-, t', ht', hpos⟩ := hcan
      obtain rfl := Option.some.inj (ht.symm.trans ht')
      omega
  | device ht hdev => exact ⟨hf, .of_setSq ht hdev.submitted⟩
  | _ => exact ⟨hf, .of_sqs rfl⟩

end Runs

/-- The firmware pauses the endpoint and makes it active again, up to the first
round of the resume loop. -/
def pauseAndResume : List EndpointAction :=
  [.startFirmware ⟨BCE_VHCI_CMD_ENDPOINT_REQUEST_STATE, 0, 0, BCE_VHCI_ENDPOINT_PAUSED⟩,
    .workStep ⟨0, 0⟩ 0, .workStep ⟨0, 0⟩ 0, .workStep ⟨0, 0⟩ 0,
    .workStep ⟨0, BCE_VHCI_ENDPOINT_PAUSED⟩ 0, .workStep ⟨0, 0⟩ 1, .workStep ⟨0, 0⟩ 1,
    .startFirmware ⟨BCE_VHCI_CMD_ENDPOINT_REQUEST_STATE, 0, 0, BCE_VHCI_ENDPOINT_ACTIVE⟩,
    .workStep ⟨0, BCE_VHCI_ENDPOINT_ACTIVE⟩ 0, .workStep ⟨0, 0⟩ 0]

/-- A device-to-host URB, about to be resumed. -/
def inboundState : Endpoint :=
  endpointSystem.after (AtLockStep RoundInbound)
    ([.enqueue 0 ⟨true, 4, 0, 0⟩ 0, .lockStep] ++ pauseAndResume) (.fresh 0x81)

def inboundResumed : Endpoint := (Endpoint.step .lockStep inboundState).getD inboundState

/-- Its data is asked for again, on `sq_in`. -/
theorem elements_fit_their_queue_of_a_resume :
    inboundResumed.fault = none ∧ Submits inboundState inboundResumed := by
  have hreach : endpointSystem.Reachable (AtLockStep RoundInbound) inboundState :=
    .after (.of_init (Endpoint.fresh_init 0x81)) (by decide +kernel)
  have hsome : (Endpoint.step .lockStep inboundState).isSome = true := by decide +kernel
  have hstep : Endpoint.step .lockStep inboundState = some inboundResumed := by
    obtain ⟨s', hs'⟩ := Option.isSome_iff_exists.mp hsome
    unfold inboundResumed
    rw [hs', Option.getD_some]
  exact elements_fit_their_queue hreach (by decide +kernel) hstep

/-- A host-to-device URB with a window of its data in flight, about to be resumed. -/
def outboundState : Endpoint :=
  endpointSystem.after (fun _ _ => True)
    ([.enqueue 0 ⟨false, 4, 0, 0⟩ 0, .lockStep, .event ⟨BCE_VHCI_CMD_TRANSFER_REQUEST, 0, 0, 4⟩,
      .lockStep, .lockStep, .lockStep, .leave] ++ pauseAndResume) (.fresh 0x02)

/-- Its data is asked for, on the `sq_in` its endpoint does not have. -/
theorem resumed_on_a_missing_queue :
    ¬∀ s a s', endpointSystem.Reachable (fun _ _ => True) s → Endpoint.step a s = some s' →
      s'.fault = none ∧ Submits s s' := by
  intro h
  have hreach : endpointSystem.Reachable (fun _ _ => True) outboundState :=
    .after (.of_init (Endpoint.fresh_init 0x02)) (by decide +kernel)
  have hfault : ((Endpoint.step .lockStep outboundState).bind Endpoint.fault) =
      some .nullDeref := by
    decide +kernel
  obtain ⟨s', hstep, hs'⟩ := Option.bind_eq_some_iff.mp hfault
  rw [(h outboundState .lockStep s' hreach hstep).1] at hs'
  cases hs'

end BceDriver
