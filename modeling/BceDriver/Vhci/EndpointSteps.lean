import BceDriver.Vhci.Ownership

/-!
# What a step of an endpoint does

`StepEffect` lists, once, everything a step of a run can do, given that every
URB is where `Owned` says. The invariants of runs are case analyses of it.

- `Quiet`: steps that touch neither a URB nor a submission queue.
- `DeviceEffect`: what the device and the flushes do to a submission queue.
- `step_spec`: a step has one of the effects.
-/

namespace BceDriver

open FaultState

/-- Only flags, deferred messages and what is shared with other endpoints changed. -/
structure Flags (q q' : BceVhciTransferQueue) : Prop where
  frame : q' = { q with
    state := q'.state, active := q'.active, stalled := q'.stalled, fwPaused := q'.fwPaused
    evq := q'.evq, msgAsynchronous := q'.msgAsynchronous, asyncWaits := q'.asyncWaits
    resetQueued := q'.resetQueued }

namespace Flags

variable {q q' : BceVhciTransferQueue}

theorem refl (q : BceVhciTransferQueue) : Flags q q := ⟨rfl⟩

theorem sqs (h : Flags q q') : q'.sqs = q.sqs := by rw [h.frame]

theorem vurbs (h : Flags q q') : q'.vurbs = q.vurbs := by rw [h.frame]

theorem urbs (h : Flags q q') : q'.urbs = q.urbs := by rw [h.frame]

theorem urbList (h : Flags q q') : q'.urbList = q.urbList := by rw [h.frame]

theorem heap (h : Flags q q') : SameHeap q q' := by
  rw [h.frame]
  exact ⟨rfl, rfl, fun _ => rfl, fun _ => rfl, fun _ => rfl, rfl⟩

theorem of_replied (q : BceVhciTransferQueue) (reply : CommandOutcome) :
    Flags q (q.replied reply) := by
  obtain ⟨state, hstate⟩ := q.replied_eq reply
  rw [hstate]
  exact ⟨rfl⟩

end Flags

/-- A step that moves no URB and no element. -/
structure Quiet (s s' : Endpoint) : Prop where
  flags : Flags s.q s'.q
  popped : s'.popped = s.popped
  accepted : s'.accepted = s.accepted
  givenBack : s'.givenBack = s.givenBack
  workHeld : Endpoint.workHeld s'.worker = Endpoint.workHeld s.worker
  contexts : ∃ b, LockOk s'.lock b ∧ WorkerOwns s.q s'.worker b
  resuming : s'.resuming = s.resuming

/-- What the device and the flushes do to the elements of a submission queue. -/
inductive DeviceEffect (t : TransferSq) : TransferSq → Prop where
  | complete {e : TransferElement} {es : List TransferElement} (c : BceSqCompletionData) :
      t.inflight = e :: es →
      DeviceEffect t { t with inflight := es, posted := t.posted ++ [(e, c)] }
  | abort (k : Nat) : DeviceEffect t (t.abort k)
  | accept {e : TransferElement} {c : BceSqCompletionData}
      {rest : List (TransferElement × BceSqCompletionData)} : t.posted = (e, c) :: rest →
      DeviceEffect t { t with
        sq := bceStoreCompletion t.sq ⟨c.result, c.dataSize, t.sq.qid, t.sq.completionTail,
          c.status, BCE_COMPLETION_FLAG_PENDING⟩
        posted := rest
        pending := t.pending ++ [(e, c)] }

/-- The effects of the steps of an endpoint, by the action. -/
inductive StepEffect (s : Endpoint) : EndpointAction → Endpoint → Prop where
  /-- the holder of `urb_lock` dies -/
  | died : s.lock ≠ [] → StepEffect s .lockStep { s with fault := some .nullDeref }
  | quiet {a : EndpointAction} {s' : Endpoint} : s'.fault = none → Quiet s s' → StepEffect s a s'
  | enqueued {u : Nat} {request : UrbRequest} {linked : Int} {q' : BceVhciTransferQueue} :
      s.lock = [] → ¬s.Owns u → s.Supports request → CreateEffect (s.q.fill u request) u 0 q' →
      StepEffect s (.enqueue u request linked)
        { s with q := q', lock := [.deliver], accepted := s.accepted ++ [(q'.urbs u).enqueue] }
  | refused {u : Nat} {request : UrbRequest} {linked r : Int} {q' : BceVhciTransferQueue} :
      s.lock = [] → ¬s.Owns u → s.Supports request → r ≠ 0 →
      CreateEffect (s.q.fill u request) u r q' →
      StepEffect s (.enqueue u request linked) { s with q := q' }
  | delivered {ops : List LockOp} {more : Bool} {q' : BceVhciTransferQueue} :
      s.lock = .deliver :: ops → DeliverEffect s.q more q' →
      StepEffect s .lockStep { s with q := q', lock := if more then .deliver :: ops else ops }
  | completed {d : DmaDataDirection} {ops : List LockOp} {more : Bool}
      {q' : BceVhciTransferQueue} : s.lock = .completions d :: ops →
      CompletionRoundEffect s.q d more q' →
      StepEffect s .lockStep
        { s with q := q', lock := if more then .completions d :: ops else ops }
  | event {msg : BceVhciMessage} {ops : List LockOp} {q' : BceVhciTransferQueue} :
      s.lock = .event msg :: ops → EventEffect s.q msg q' →
      StepEffect s .lockStep { s with q := q', lock := ops }
  | resumed {u urb : Nat} {us : List Nat} {v : BceVhciUrb} {ops : List LockOp}
      {q' : BceVhciTransferQueue} : s.lock = .resume (u :: us) :: ops → u ∈ s.q.urbList →
      s.q.Has u urb v → ResumeEffect s.q urb v q' →
      StepEffect s .lockStep { s with q := q', lock := .resume us :: ops }
  | activated {reply : CommandOutcome} {aborted : Nat} {ops : List WorkOp} :
      s.worker = .activate :: ops → s.lock = [] →
      StepEffect s (.workStep reply aborted) { s with
        q := { s.q with active := true }
        lock := [.resume s.q.urbList, .deliver, .back]
        worker := .locked :: ops }
  | removed {reply : CommandOutcome} {aborted u : Nat} {status : Int} {ops : List WorkOp} :
      s.worker = .remove u status :: ops → s.lock = [] → u ∈ s.q.urbList →
      StepEffect s (.workStep reply aborted) { s with
        q := { s.q.setUrb u { s.q.urbs u with unlinked := status } with
          urbList := s.q.urbList.erase u }
        lock := [.deliver, .back]
        worker := .locked :: .kfree (s.enqueueOf u) :: .giveback u :: ops }
  | freed {reply : CommandOutcome} {aborted urb : Nat} {ops : List WorkOp} :
      s.worker = .kfree urb :: ops →
      StepEffect s (.workStep reply aborted) { s with
        q := { s.q with vurbs := Function.update s.q.vurbs urb none }
        worker := ops }
  | gaveRemoved {reply : CommandOutcome} {aborted u : Nat} {ops : List WorkOp} :
      s.worker = .giveback u :: ops →
      StepEffect s (.workStep reply aborted) { s.giveBack u with worker := ops }
  | popped {u : Nat} {us : List Nat} : s.q.givebackUrbList = u :: us → s.lock = [] →
      StepEffect s .pop { s with
        q := { s.q with givebackUrbList := us }, givers := s.givers - 1
        popped := s.popped ++ [u] }
  | gave {u : Nat} : u ∈ s.popped →
      StepEffect s (.give u)
        { s.giveBack u with popped := s.popped.erase u, givers := s.givers + 1 }
  | device {a : EndpointAction} {d : DmaDataDirection} {t t' : TransferSq} {ops : List WorkOp} :
      s.q.sqs d = some t → DeviceEffect t t' →
      Endpoint.workHeld ops = Endpoint.workHeld s.worker →
      (∃ b, LockOk s.lock b ∧ WorkerOwns s.q ops b) →
      StepEffect s a { s with q := s.q.setSq d t', worker := ops }

/-! ## Every step has an effect -/

section Spec

variable {s s' : Endpoint}

/-- A program returns with its effect, or stops the run with one of its faults. -/
theorem Endpoint.exec_wp {α : Type} {m : TransferM α} {k : α → BceVhciTransferQueue → Endpoint}
    {E : Fault → Prop} {P : α → BceVhciTransferQueue → Prop} {Q : Endpoint → Prop}
    (h : wp m E P s.q) (hok : ∀ a q, P a q → Q (k a q))
    (herror : ∀ f, E f → Q { s with fault := some f }) : Q (s.exec m k) := by
  unfold Endpoint.exec
  unfold wp at h
  cases hm : m.run s.q with
  | ok p =>
    rw [hm] at h
    exact hok _ _ h
  | error f =>
    rw [hm] at h
    exact herror f h

/-- Whatever the program does. -/
theorem Endpoint.exec_any {α : Type} {m : TransferM α} {k : α → BceVhciTransferQueue → Endpoint}
    {Q : Endpoint → Prop} (hok : ∀ a q, Q (k a q)) (herror : ∀ f, Q { s with fault := some f }) :
    Q (s.exec m k) := by
  unfold Endpoint.exec
  cases m.run s.q with
  | ok p => exact hok _ _
  | error f => exact herror f

/-- A program that only faults on a missing submission queue. -/
theorem Endpoint.exec_elim {α : Type} {m : TransferM α} {k : α → BceVhciTransferQueue → Endpoint}
    {P : α → BceVhciTransferQueue → Prop} {Q : Endpoint → Prop}
    (h : wp m (· = .nullDeref) P s.q) (hok : ∀ a q, P a q → Q (k a q))
    (hdied : Q { s with fault := some .nullDeref }) : Q (s.exec m k) :=
  Endpoint.exec_wp h hok fun _ hf => hf ▸ hdied

/-- A program that does not fault. -/
theorem Endpoint.exec_ok {α : Type} {m : TransferM α} {k : α → BceVhciTransferQueue → Endpoint}
    {P : α → BceVhciTransferQueue → Prop} {Q : Endpoint → Prop}
    (h : wp m (fun _ => False) P s.q) (hok : ∀ a q, P a q → Q (k a q)) : Q (s.exec m k) :=
  Endpoint.exec_wp h hok fun _ hf => hf.elim

theorem lockStep_spec (h : Owned s) (hf : s.fault = none) (hstep : s.lockStep = some s') :
    StepEffect s .lockStep s' := by
  obtain ⟨b, hlock, hworker⟩ := h.contexts
  cases lockStep_branch hstep with
  | deliver hops =>
    exact Endpoint.exec_elim (deliverRound_spec (E := (· = .nullDeref)) h.live
      fun _ _ _ _ _ _ _ => rfl)
      (fun more q' heff => .delivered hops heff) (.died (by simp [hops]))
  | @completions d ops hops =>
    exact Endpoint.exec_elim (completionRound_spec (E := (· = .nullDeref)) h.live d
      (fun _ => rfl) fun _ _ _ _ => rfl)
      (fun more q' heff => .completed hops heff) (.died (by simp [hops]))
  | @event msg ops hops =>
    exact Endpoint.exec_elim (eventBody_spec (E := (· = .nullDeref)) h.live msg
      fun _ _ _ _ => rfl)
      (fun _ q' heff => .event hops heff) (.died (by simp [hops]))
  | resumed hops | giveback hops =>
    rw [hops] at hlock
    refine .quiet hf ⟨.refl _, rfl, rfl, rfl, rfl, ⟨b, hlock.tail (by simp), hworker⟩, ?_⟩
    rw [hlock.resuming_tail _ rfl]
    simp [Endpoint.resuming, hops]
  | @resume u us ops hops =>
    have hu : u ∈ s.q.urbList := h.resuming.2 u (by simp [Endpoint.resuming, hops])
    obtain ⟨v, hhas⟩ := h.linked u hu
    exact Endpoint.exec_elim (resumeUrb_spec (E := (· = .nullDeref)) hhas fun _ _ => rfl)
      (fun _ q' heff => .resumed hops hu hhas heff) (.died (by simp [hops]))
  | back hops =>
    rw [hops] at hlock
    cases hlock with
    | plain hplain => exact absurd (hplain .back (by simp)) id
    | back =>
      -- the worker waits for the lock at the head of its program
      generalize hw : s.worker = worker at hworker
      cases hworker with
      | @locked ops hops' =>
        refine .quiet hf ⟨.refl _, rfl, rfl, rfl, by simp [hw], ⟨false, .plain (by simp), ?_⟩, ?_⟩
        · simpa [hw] using hops'
        · simp [Endpoint.resuming, hops]

/-- Without the lock, the worker's program is one that does not hold it. -/
theorem Owned.worker_of_free (h : Owned s) (hl : s.lock = []) : WorkerOwns s.q s.worker false := by
  obtain ⟨b, hlock, hworker⟩ := h.contexts
  rw [hl] at hlock
  cases hlock with
  | plain => exact hworker

/-- A step of the work item that is no more than it says. -/
theorem Quiet.of_work {op : WorkOp} {ops ops' : List WorkOp} {q' : BceVhciTransferQueue}
    (h : Owned s) (hw : s.worker = op :: ops) (hop : op.Plain) (hflags : Flags s.q q')
    (hops : (∀ op ∈ ops, op.Plain) → ∀ op ∈ ops', op.Plain) :
    Quiet s { s with q := q', worker := ops' } := by
  obtain ⟨b, hlock, hworker⟩ := h.contexts
  rw [hw] at hworker
  generalize hall : op :: ops = all at hworker
  cases hworker with
  | plain hplain =>
    subst hall
    have hplain' := hops fun op' hop' => hplain op' (List.mem_cons_of_mem _ hop')
    refine ⟨hflags, rfl, rfl, rfl, ?_, ⟨false, hlock, .plain hplain'⟩, rfl⟩
    rw [hw, Endpoint.workHeld_plain hplain, Endpoint.workHeld_plain hplain']
  | freeing => exact absurd hop (by rw [(List.cons.inj hall).1]; exact id)
  | freed => exact absurd hop (by rw [(List.cons.inj hall).1]; exact id)
  | locked => exact absurd hop (by rw [(List.cons.inj hall).1]; exact id)

/-- The `bce_vhci_urb` the work item frees is there. -/
theorem Owned.kfree (h : Owned s) {urb : Nat} {ops : List WorkOp}
    (hw : s.worker = .kfree urb :: ops) :
    wp (kfreeVurb urb) (fun _ => False)
      (fun _ q' => q' = { s.q with vurbs := Function.update s.q.vurbs urb none }) s.q := by
  obtain ⟨b, -, hworker⟩ := h.contexts
  rw [hw] at hworker
  rw [wp_kfreeVurb]
  cases hworker with
  | plain hplain => exact absurd (hplain (.kfree urb) (by simp)) id
  | freeing hv => rw [hv]

theorem workStep_spec (h : Owned s) (hf : s.fault = none) {reply : CommandOutcome} {aborted : Nat}
    (hstep : s.workStep reply aborted = some s') : StepEffect s (.workStep reply aborted) s' := by
  cases workStep_branch hstep with
  | deactivate hops | removePending hops | clearStalled hops | setFwPaused hops | stall hops =>
    exact .quiet hf (.of_work h hops trivial ⟨rfl⟩ id)
  | resetCommand hops => exact .quiet hf (.of_work h hops trivial (.refl s.q) id)
  | pauseCommand hops =>
    refine Endpoint.exec_ok (pauseCommand_spec (q := s.q)) fun r q' hq' => ?_
    have hflags : Flags s.q q' := hq'.1 ▸ .of_replied s.q reply
    split
    · refine .quiet hf (.of_work h hops trivial hflags fun hops' op hop => ?_)
      simp only [List.mem_cons] at hop
      -- a pause that worked is followed by the two flushes
      rcases hop with rfl | rfl | hop
      · exact trivial
      · exact trivial
      · exact hops' op hop
    · exact .quiet hf (.of_work h hops trivial hflags id)
  | @flush d ops hops =>
    have hquiet := Quiet.of_work h hops trivial (.refl s.q) id
    refine Endpoint.exec_ok (P := fun _ q' => StepEffect s (.workStep reply aborted)
      { s with q := q', worker := ops }) ?_ fun _ _ heff => heff
    rw [wp_flush]
    split
    · next t ht => exact .device ht (.abort aborted) hquiet.workHeld hquiet.contexts
    · exact .quiet hf hquiet
  | @remove u status ops hops hl =>
    refine Endpoint.exec_ok (removeBody_spec s.q u status) fun r q' hrem => ?_
    cases hrem with
    | refused hr =>
      rw [if_neg hr]
      exact .quiet hf (.of_work h hops trivial (.refl s.q) id)
    | removed hu =>
      obtain ⟨v, hhas⟩ := h.linked u hu
      rw [if_pos rfl, hhas.hcpriv]
      exact .removed hops hl hu
  | kfree hops =>
    refine Endpoint.exec_ok (h.kfree hops) fun _ q' hq' => ?_
    subst hq'
    exact .freed hops
  | giveback hops => exact .gaveRemoved hops
  | resumeUnlessFwPaused hops =>
    refine .quiet hf (.of_work h hops trivial (.refl s.q) fun hops' => ?_)
    split
    · exact hops'
    · exact List.forall_mem_cons.mpr ⟨trivial, hops'⟩
  | resumeCommand hops =>
    refine Endpoint.exec_ok (resumeCommand_spec (q := s.q)) fun r q' hq' => ?_
    have hflags : Flags s.q q' := hq'.1 ▸ .of_replied s.q reply
    refine .quiet hf (.of_work h hops trivial hflags fun hops' => ?_)
    split
    · exact List.forall_mem_cons.mpr ⟨trivial, hops'⟩
    · exact hops'
  | activate hops hl => exact .activated hops hl
  | returnUnlessStalled hops =>
    refine .quiet hf (.of_work h hops trivial (.refl s.q) fun hops' => ?_)
    split
    · exact hops'
    · simp

/-- A step that only changes flags and what contexts wait. -/
theorem Quiet.of_flags (h : Owned s) (hq : Flags s.q q') (cancels : List (Nat × Int))
    (givers : Nat) : Quiet s { s with q := q', cancels := cancels, givers := givers } :=
  ⟨hq, rfl, rfl, rfl, rfl, h.contexts, rfl⟩

theorem enqueue_spec (hl : s.lock = []) {u : Nat} {request : UrbRequest} {linked : Int}
    (hu : ¬s.Owns u) (hsup : s.Supports request) :
    StepEffect s (.enqueue u request linked) (s.enqueue u request linked) := by
  have hdir : ((s.q.fill u request).urbs u).dirIn = true →
      (s.q.fill u request).sqs .fromDevice = none → False := by
    intro hd hnone
    have hin : request.dirIn = true := by simpa [BceVhciTransferQueue.fill] using hd
    have hsq := hsup.1
    rw [if_pos hin] at hsq
    exact hsq hnone
  unfold Endpoint.enqueue
  refine Endpoint.exec_ok (s := { s with q := s.q.fill u request })
    (createBody_spec u hdir linked) fun r q' heff => ?_
  split
  · next hr =>
    subst hr
    exact .enqueued hl hu hsup heff
  · next hr => exact .refused hl hu hsup hr heff

/-- Taking the lock for a program that is not the worker's. -/
theorem Quiet.of_lock (h : Owned s) (hl : s.lock = []) {ops : List LockOp}
    (hops : ∀ op ∈ ops, op.Plain) : Quiet s { s with lock := ops } := by
  refine ⟨.refl _, rfl, rfl, rfl, rfl, ⟨false, .plain hops, h.worker_of_free hl⟩, ?_⟩
  have hnil : ({ s with lock := ops } : Endpoint).resuming = [] := by
    unfold Endpoint.resuming
    dsimp only
    split
    · exact absurd (hops _ List.mem_cons_self) id
    · rfl
  rw [hnil]
  simp [Endpoint.resuming, hl]

/-- The ordered workqueue starts a work item. -/
theorem Quiet.of_start (h : Owned s) (hw : s.worker = []) {q' : BceVhciTransferQueue}
    (hq : Flags s.q q') (cancels : List (Nat × Int)) {ops : List WorkOp}
    (hops : ∀ op ∈ ops, op.Plain) :
    Quiet s { s with q := q', worker := ops, cancels := cancels } := by
  obtain ⟨b, hlock, hworker⟩ := h.contexts
  rw [hw] at hworker
  cases hworker with
  | plain hplain =>
    refine ⟨hq, rfl, rfl, rfl, ?_, ⟨false, hlock, .plain hops⟩, rfl⟩
    rw [hw, Endpoint.workHeld_plain hops, Endpoint.workHeld_nil]

/-- A firmware request pauses, resumes or stalls. -/
theorem firmwareOps_mem {msg : BceVhciMessage} {op : WorkOp} (h : op ∈ firmwareOps msg) :
    op ∈ [.resumeCommand, .setFwPaused false, .setFwPaused true, .deactivate, .removePending,
      .pauseCommand, .stall] := by
  unfold firmwareOps pauseOps at h
  split at h
  · split at h
    · simp only [List.mem_cons] at h ⊢
      tauto
    · split at h
      · simp only [List.mem_cons] at h ⊢
        tauto
      · cases h
  · split at h
    · split at h
      · simp only [List.mem_cons] at h ⊢
        tauto
      · cases h
    · cases h

theorem firmwareOps_plain (msg : BceVhciMessage) : ∀ op ∈ firmwareOps msg, op.Plain := by
  intro op hop
  have hmem := firmwareOps_mem hop
  cases op with
  | locked => simp at hmem
  | kfree => simp at hmem
  | giveback => simp at hmem
  | _ => exact trivial

/-- A step of the work item, in a run that goes on. -/
theorem step_workStep {reply : CommandOutcome} {aborted : Nat}
    (hstep : Endpoint.step (.workStep reply aborted) s = some s') :
    s.workStep reply aborted = some s' := by
  cases (step_branch hstep).2 with
  | workStep hwork => exact hwork

/-- **Every step of an endpoint has one of the effects.** -/
theorem step_spec {a : EndpointAction} (h : Owned s) (hstep : Endpoint.step a s = some s') :
    StepEffect s a s' := by
  obtain ⟨hf, hbranch⟩ := step_branch hstep
  cases hbranch with
  | enqueue hl hu hsup => exact enqueue_spec hl hu hsup
  | dequeue =>
    refine Endpoint.exec_ok (checkUnlink_spec s.q _) fun r q' hq' => ?_
    exact .quiet hf (.of_flags h (hq'.1 ▸ .refl s.q) _ s.givers)
  | endpointReset | async => exact .quiet hf (.of_flags h ⟨rfl⟩ s.cancels s.givers)
  | event hl | completion hl => exact .quiet hf (.of_lock h hl (by simp [LockOp.Plain]))
  | lockStep hlock => exact lockStep_spec h hf hlock
  | pop hlist hl => exact .popped hlist hl
  | leave => exact .quiet hf (.of_flags h (.refl s.q) s.cancels _)
  | give hu => exact .gave hu
  | startCancel hw =>
    exact .quiet hf (.of_start h hw (.refl s.q) _ (by simp [cancelOps, pauseOps, WorkOp.Plain]))
  | startReset hw =>
    exact .quiet hf (.of_start h hw ⟨rfl⟩ s.cancels (by simp [resetOps, WorkOp.Plain]))
  | startFirmware hw =>
    exact .quiet hf (.of_start h hw (.refl s.q) s.cancels (firmwareOps_plain _))
  | workStep hwork => exact workStep_spec h hf hwork
  | complete ht hin => exact .device ht (.complete _ hin) rfl h.contexts
  | accept ht hposted => exact .device ht (.accept hposted) rfl h.contexts

end Spec

end BceDriver
