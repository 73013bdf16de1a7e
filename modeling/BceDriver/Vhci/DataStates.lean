import BceDriver.Vhci.PauseResume

/-!
# The states of a data transfer

A URB of a bulk or interrupt endpoint is parked, waits for a transfer request, or
waits for a completion. The handlers it shares with control URBs know a fourth
state, in which only a control URB is still looked at: the data phase is over.

- `BceVhciUrb.CanComplete`: something is going to complete the URB.
- `StartsNonempty`: starting the URB leaves it something to wait for; a host-to-device URB
  without data goes to the fourth state at once.
- `data_urb_states`: in the runs whose steps start only such URBs, every linked URB can
  complete, and no other step breaks that.
-/

namespace BceDriver

open FaultState

/-- Unless the URB is a control URB, a resume, a message or a completion is what it
waits for. -/
def BceVhciUrb.CanComplete (v : BceVhciUrb) : Prop :=
  v.isControl = false →
    v.state = .initPaused ∨ v.state = .waitingForTransferRequest ∨ v.state = .waitingForCompletion

instance (v : BceVhciUrb) : Decidable v.CanComplete :=
  inferInstanceAs (Decidable (v.isControl = false → _))

/-- Every linked URB waits for something. -/
abbrev DataStates (q : BceVhciTransferQueue) : Prop :=
  EveryLinked (fun _ _ v => v.CanComplete) q

/-- Starting the URB leaves it something to wait for. -/
def StartsNonempty (q : BceVhciTransferQueue) (v : BceVhciUrb) : Prop :=
  v.isControl = false → v.dir = .toDevice → (q.urbs v.urb).transferBufferLength > 0

instance (q : BceVhciTransferQueue) (v : BceVhciUrb) : Decidable (StartsNonempty q v) :=
  inferInstanceAs (Decidable (v.isControl = false → v.dir = .toDevice → _))

/-- The URB a resume is about to visit has data, if it is going to be started. -/
def LockOp.ResumesData (q : BceVhciTransferQueue) : LockOp → Prop
  | .resume us => ∀ u ∈ us.head?, ∀ urb ∈ (q.urbs u).hcpriv, ∀ v ∈ q.vurbs urb,
      v.state = .initPaused → StartsNonempty q v
  | _ => True

instance (q : BceVhciTransferQueue) : ∀ op, Decidable (LockOp.ResumesData q op)
  | .resume us => inferInstanceAs (Decidable (∀ u ∈ us.head?, ∀ urb ∈ (q.urbs u).hcpriv, _))
  | .deliver | .completions _ | .event _ | .giveback | .back => .isTrue trivial

/-- The step starts no host-to-device data transfer without data: an enqueue on an
active queue that the USB core accepts, or a visit of a parked URB. -/
def StartsWithData : EndpointAction → Endpoint → Prop
  | .enqueue _ request linked, s => linked = 0 → s.q.active = true → s.q.isControl = false →
      request.dirIn = false → request.transferBufferLength > 0
  | .lockStep, s => ∀ op ∈ s.lock.head?, op.ResumesData s.q
  | _, _ => True

instance : ∀ a s, Decidable (StartsWithData a s)
  | .enqueue _ _ linked, s =>
    inferInstanceAs (Decidable (linked = 0 → s.q.active = true → s.q.isControl = false → _))
  | .lockStep, s => inferInstanceAs (Decidable (∀ op ∈ s.lock.head?, op.ResumesData s.q))
  | .dequeue .., _ | .endpointReset, _ | .event _, _ | .completion _, _ | .pop, _ | .leave, _
  | .give _, _ | .startCancel .., _ | .startReset, _ | .startFirmware _, _ | .workStep .., _
  | .complete .., _ | .accept _, _ | .async .., _ => .isTrue trivial

/-! ## What each handler leaves -/

section Handlers

variable {q q' : BceVhciTransferQueue} {urb u : Nat} {v : BceVhciUrb}

open BceVhciUrb

theorem BceVhciUrb.CanComplete.of_control (hc : v.isControl = true) : v.CanComplete := fun h => by
  simp [hc] at h

theorem StartedIn.canComplete {timeout : Nat} (h : StartedIn timeout q urb v q') :
    LeavesUrb CanComplete urb q q' :=
  .startedIn h fun _ => .inr (.inr rfl)

theorem UpdateEffect.canComplete {msg : BceVhciMessage} {r : Int} (hv : q.vurbs urb = some v)
    (h : UpdateEffect q urb v msg r q') (hcan : v.CanComplete) :
    LeavesUrb CanComplete urb q q' := by
  cases h with
  | deferred => exact .kept hv rfl hcan
  | refused => exact .kept hv rfl hcan
  | setup hc => exact .stored rfl (.of_control hc)
  | out => exact .stored rfl fun _ => .inr (.inr rfl)
  | outSettled => exact .freed (settle_vurbs ..)
  | status hc => exact .stored rfl (.of_control hc)
  | settled => exact .freed (settle_vurbs ..)

/-- A completion that ends the data phase of a URB ends the URB, if it is no control URB. -/
theorem CompletionEffect.canComplete {c : BceSqCompletionData} (hv : q.vurbs urb = some v)
    (h : CompletionEffect q urb v c q') (hcan : v.CanComplete) :
    LeavesUrb CanComplete urb q q' := by
  cases h with
  | ignored => exact .kept hv rfl hcan
  | progress hs =>
    refine .stored rfl fun hc => ?_
    simp [hs]
  | dataDone hc => exact .stored rfl (.of_control hc)
  | done => exact .freed rfl
  | doneSettled => exact .freed (settle_vurbs ..)
  | settled => exact .freed (settle_vurbs ..)
  | startedIn _ _ _ h => exact h.canComplete
  | startFailed _ _ _ h => exact .startFailed h ..
  | startedOut hc => exact .stored rfl (.of_control hc)

/-- A URB with data starts waiting for something. -/
theorem InitEffect.canComplete {r : Int} (hv : q.vurbs urb = some v)
    (h : InitEffect q urb v r q') (hcan : v.CanComplete) (hdata : StartsNonempty q v) :
    LeavesUrb CanComplete urb q q' := by
  cases h with
  | control hc => exact .stored rfl (.of_control hc)
  | out hc hd =>
    refine .stored rfl fun _ => ?_
    simp [outStartState, hdata hc hd]
  | startedIn _ _ h => exact h.canComplete
  | failed _ _ h => exact .kept hv h.waited.vurbs hcan

/-- A URB without data has nothing to wait for once it is started. -/
theorem InitEffect.of_no_data {r : Int} (h : InitEffect q urb v r q')
    (hdata : ¬StartsNonempty q v) :
    r = 0 ∧ ∃ v', q' = q.setVurb urb v' ∧ v'.urb = v.urb ∧ ¬v'.CanComplete := by
  unfold StartsNonempty at hdata
  push Not at hdata
  obtain ⟨hc, hd, hlen⟩ := hdata
  cases h with
  | control hc' => simp [hc] at hc'
  | out =>
    refine ⟨rfl, _, rfl, rfl, ?_⟩
    simp [BceVhciUrb.CanComplete, outStartState, hc, Nat.le_zero.mp hlen]
  | startedIn _ hd' => simp [hd] at hd'
  | failed _ hd' => simp [hd] at hd'

theorem ResumeEffect.canComplete (hv : q.vurbs urb = some v) (h : ResumeEffect q urb v q')
    (hcan : v.CanComplete) (hdata : v.state = .initPaused → StartsNonempty q v) :
    LeavesUrb CanComplete urb q q' := by
  cases h with
  | unchanged => exact .kept hv rfl hcan
  | init hs h => exact h.canComplete hv hcan (hdata hs)
  | restarted _ h => exact h.canComplete
  | failed _ h => exact .startFailed h ..

/-- A URB that has nothing to wait for is still linked. -/
theorem not_dataStates (hu : u ∈ q.urbList) (hhas : q.Has u urb v) {v' : BceVhciUrb}
    (hurb : v'.urb = v.urb) (hcan : ¬v'.CanComplete) : ¬DataStates (q.setVurb urb v') := fun h =>
  hcan (h u hu urb v' ⟨hhas.hcpriv, Function.update_self .., hurb.trans hhas.urb_eq⟩)

end Handlers

/-! ## One step -/

section Steps

variable {q q' : BceVhciTransferQueue}

theorem UpdateEffect.dataStates {u urb : Nat} {v : BceVhciUrb} {msg : BceVhciMessage} {r : Int}
    (hup : UpdateEffect q urb v msg r q') (hnodup : q.urbList.Nodup) (h : DataStates q)
    (hhead : q.Head u urb v) : DataStates q' :=
  h.handler hnodup (hup.heap hhead.vurb)
    (hup.canComplete hhead.vurb (h u (Head.mem hhead) urb v hhead.toHas))

theorem CompletionRoundEffect.dataStates {d : DmaDataDirection} {more : Bool}
    (hnodup : q.urbList.Nodup) (h : DataStates q) (heff : CompletionRoundEffect q d more q') :
    DataStates q' := by
  refine h.completionRound id (fun {t c sq u urb v q₁} _ _ _ hhead heff hcons => ?_) heff
  exact hcons.handler hnodup (heff.heap hhead.vurb)
    (heff.canComplete hhead.vurb (h u (Head.mem hhead) urb v hhead.toHas))

variable {s s' : Endpoint} {a : EndpointAction}

/-- **An enqueue** keeps the states exactly if it starts no URB without data. -/
theorem enqueue_dataStates_iff (h : DataStates s.q) {u : Nat} {request : UrbRequest} {linked : Int}
    (hsup : s.Supports request) :
    DataStates (s.enqueue u request linked).q ↔
      StartsWithData (.enqueue u request linked) s := by
  let q := s.q.fill u request
  have hfill : DataStates q := h.fill u request
  have hlink : DataStates (q.link u) := hfill.link fun _ => .inl rfl
  have hfresh : (q.link u).vurbs q.nextVurb = some (freshVurb q u) := Function.update_self ..
  have hhas : (q.link u).Has u q.nextVurb (freshVurb q u) := ⟨by simp [BceVhciTransferQueue.link],
    hfresh, rfl⟩
  have hmem : u ∈ (q.link u).urbList := List.mem_append_right _ List.mem_cons_self
  have hdir : (freshVurb q u).dir = .fromDevice ↔ request.dirIn = true := by
    simp [freshVurb, q, BceVhciTransferQueue.fill]
  have hnull : (freshVurb q u).dir = .fromDevice → (q.link u).sqs .fromDevice = none → False := by
    intro hd hnone
    have hsq := hsup.1
    rw [if_pos (hdir.mp hd)] at hsq
    exact hsq hnone
  -- the URB that would be started is the one of the request
  have hdata : StartsNonempty (q.link u) (freshVurb q u) ↔ (s.q.isControl = false →
      request.dirIn = false → request.transferBufferLength > 0) := by
    unfold StartsNonempty
    have hout : (freshVurb q u).dir = .toDevice ↔ request.dirIn = false := by
      simp [freshVurb, q, BceVhciTransferQueue.fill]
    have hlen : ((q.link u).urbs (freshVurb q u).urb).transferBufferLength =
        request.transferBufferLength := by
      simp [freshVurb, q, BceVhciTransferQueue.fill, BceVhciTransferQueue.link]
    rw [hout, hlen]
    rfl
  unfold Endpoint.enqueue
  refine Endpoint.exec_ok (s := { s with q := q })
    (Q := fun s' => DataStates s'.q ↔ StartsWithData (.enqueue u request linked) s)
    (P := fun _ q' => DataStates q' ↔ StartsWithData (.enqueue u request linked) s)
    (wp_createBody u linked (fun hl => ?_) (fun hl ha => ?_) fun hl ha => ?_) fun r q' hq' => ?_
  · exact iff_of_true (hfill.refuse u) fun h0 => absurd h0 hl
  · refine wp_imp (urbInit_spec hfresh hnull) fun r q' hi => ?_
    have hguard : StartsWithData (.enqueue u request linked) s ↔
        StartsNonempty (q.link u) (freshVurb q u) :=
      ⟨fun hg => hdata.mpr (hg hl ha), fun hg _ _ => hdata.mp hg⟩
    rw [hguard]
    by_cases hstarts : StartsNonempty (q.link u) (freshVurb q u)
    · have hq' : DataStates q' :=
        hlink.init (hi.heap hfresh) (hi.canComplete hfresh (fun _ => .inl rfl) hstarts)
      exact ⟨fun _ => iff_of_true hq' hstarts,
        fun _ => ⟨hi.allocated hfresh, iff_of_true (hq'.discard _ u) hstarts⟩⟩
    · obtain ⟨rfl, v', rfl, hurb, hcan⟩ := hi.of_no_data hstarts
      exact ⟨fun _ => iff_of_false (not_dataStates hmem hhas hurb hcan) hstarts,
        fun h0 => absurd rfl h0⟩
  · refine iff_of_true (hlink.of_eq rfl rfl rfl rfl) fun _ ha' => ?_
    have hinactive : s.q.active = false := ha
    simp [hinactive] at ha'
  · split
    · exact hq'
    · exact hq'

/-- **A visit of the resume loop** keeps the states exactly if it starts no URB without
data. -/
theorem resume_dataStates_iff (howned : Owned s) (h : DataStates s.q) {u : Nat} {us : List Nat}
    {ops : List LockOp} (hops : s.lock = .resume (u :: us) :: ops)
    (hstep : s.lockStep = some s') : DataStates s'.q ↔ StartsWithData .lockStep s := by
  have hu : u ∈ s.q.urbList := howned.resuming.2 u (by simp [Endpoint.resuming, hops])
  obtain ⟨v, hhas⟩ := howned.linked u hu
  have hguard : StartsWithData .lockStep s ↔ (v.state = .initPaused → StartsNonempty s.q v) := by
    simp [StartsWithData, LockOp.ResumesData, hops, hhas.hcpriv, hhas.vurb]
  rw [hguard]
  unfold Endpoint.lockStep at hstep
  rw [hops] at hstep
  obtain rfl := Option.some.inj hstep
  by_cases hstarts : v.state = .initPaused → StartsNonempty s.q v
  · refine iff_of_true ?_ hstarts
    refine Endpoint.exec_elim (Q := fun s' => DataStates s'.q)
      (resumeUrb_spec hhas fun _ _ => rfl) (fun _ q' heff => ?_) h
    exact h.handler howned.urbList_nodup (heff.heap hhas.vurb)
      (heff.canComplete hhas.vurb (h u hu _ v hhas) hstarts)
  · refine iff_of_false ?_ hstarts
    obtain ⟨hp, hno⟩ := Classical.not_imp.mp hstarts
    have hout : v.dir ≠ .fromDevice := by
      intro hd
      exact hno fun _ hd' => by simp [hd] at hd'
    -- a host-to-device URB is started without a submission queue
    refine Endpoint.exec_ok (Q := fun s' => ¬DataStates s'.q)
      (resumeUrb_spec hhas fun hneeds => ?_) fun _ q' heff => ?_
    · rcases hneeds with ⟨-, hd⟩ | ⟨hw, -⟩
      · exact absurd hd hout
      · simp [hp] at hw
    · cases heff with
      | unchanged hne => exact absurd hp hne
      | init _ hi =>
        obtain ⟨-, v', rfl, hurb, hcan⟩ := hi.of_no_data hno
        exact not_dataStates hu hhas hurb hcan
      | restarted hw => simp [hp] at hw
      | failed hw => simp [hp] at hw

/-- **One step** keeps the states exactly if it starts no URB without data. -/
theorem step_dataStates_iff (howned : Owned s) (h : DataStates s.q)
    (hstep : Endpoint.step a s = some s') : DataStates s'.q ↔ StartsWithData a s := by
  have hnodup := howned.urbList_nodup
  obtain ⟨-, hbranch⟩ := step_branch hstep
  by_cases henq : ∃ u request linked, a = .enqueue u request linked
  · obtain ⟨u, request, linked, rfl⟩ := henq
    cases hbranch with
    | enqueue _ _ hsup => exact enqueue_dataStates_iff h hsup
  by_cases hres : a = .lockStep ∧ ∃ u us ops, s.lock = .resume (u :: us) :: ops
  · obtain ⟨rfl, u, us, ops, hops⟩ := hres
    cases hbranch with
    | lockStep hlock => exact resume_dataStates_iff howned h hops hlock
  -- nothing else starts a URB of this kind
  have hguard : StartsWithData a s := by
    cases a with
    | enqueue u request linked => exact absurd ⟨u, request, linked, rfl⟩ henq
    | lockStep =>
      intro op hop
      cases op with
      | resume us =>
        cases us with
        | nil => simp [LockOp.ResumesData]
        | cons u us =>
          obtain ⟨ops, hops⟩ := List.head?_eq_some_iff.mp hop
          exact absurd ⟨rfl, u, us, ops, hops⟩ hres
      | _ => trivial
    | _ => trivial
  refine iff_of_true ?_ hguard
  refine h.step (step_spec howned hstep) (fun u request linked _ _ ha => ?_)
    (fun more q' heff => h.deliver (fun hhead hup => hup.dataStates hnodup h hhead) heff)
    (fun d ops more q' _ _ heff => heff.dataStates hnodup h)
    (fun msg q' heff => h.event (fun hhead hup => hup.dataStates hnodup h hhead) heff)
    (fun u us ops urb v q' ha hops => ?_)
    (fun d t t' _ _ => h.of_sqs rfl rfl rfl fun _ _ hv => hv)
  · exact absurd ⟨u, request, linked, ha⟩ henq
  · exact absurd ⟨ha, u, us, ops, hops⟩ hres

end Steps

/-! ## All runs -/

theorem reachable_dataStates {s : Endpoint} (h : endpointSystem.Reachable StartsWithData s) :
    DataStates s.q := by
  refine StepSystem.Reachable.invariant (I := fun s => DataStates s.q) ?_ ?_ h
  · rintro s ⟨address, devAddr, qidIn, qidOut, urbs, m, w, rfl⟩ u hu
    simp [Endpoint.start, bceVhciCreateTransferQueue] at hu
  · exact fun a s s' hreach hstates hguard hstep =>
      (step_dataStates_iff (reachable_owned hreach) hstates hstep).mpr hguard

/-- **Every linked URB can complete.** In the runs whose steps start no host-to-device
data transfer without data, no linked URB outside the control endpoint is in a state
that nothing ends. Every other step, and only such a one, breaks that. -/
theorem data_urb_states {s : Endpoint} (h : endpointSystem.Reachable StartsWithData s) :
    (∀ u ∈ s.q.urbList, ∀ urb v, s.q.Has u urb v → v.CanComplete) ∧
      ∀ a s', Endpoint.step a s = some s' →
        ((∀ u ∈ s'.q.urbList, ∀ urb v, s'.q.Has u urb v → v.CanComplete) ↔
          StartsWithData a s) :=
  ⟨reachable_dataStates h, fun _ _ hstep =>
    step_dataStates_iff (reachable_owned h) (reachable_dataStates h) hstep⟩

/-- A host-to-device URB of four bytes. -/
def startedOutState : Endpoint :=
  endpointSystem.after StartsWithData [.enqueue 0 ⟨false, 4, 0, 0⟩ 0, .lockStep] (.fresh 0x02)

theorem data_urb_states_of_a_run :
    startedOutState.q.urbList = [0] ∧
      ∃ v, startedOutState.q.Has 0 0 v ∧ v.isControl = false ∧ v.CanComplete := by
  have hreach : endpointSystem.Reachable StartsWithData startedOutState :=
    .after (.of_init (Endpoint.fresh_init 0x02)) (by decide)
  have hhas : startedOutState.q.Has 0 0 ((startedOutState.q.vurbs 0).get (by decide)) :=
    ⟨by decide, (Option.some_get _).symm, by decide⟩
  exact ⟨by decide, _, hhas, by decide, (data_urb_states hreach).1 0 (by decide) 0 _ hhas⟩

/-- A host-to-device URB without data. -/
def emptyOutState : Endpoint :=
  endpointSystem.after (fun _ _ => True) [.enqueue 0 ⟨false, 0, 0, 0⟩ 0, .lockStep] (.fresh 0x02)

/-- Its data phase is over at once, and it stays linked. -/
theorem empty_out_urb_stays :
    ¬∀ s, endpointSystem.Reachable (fun _ _ => True) s → s.lock = [] →
      ∀ u ∈ s.q.urbList, ∀ urb v, s.q.Has u urb v → v.CanComplete := by
  intro h
  have hreach : endpointSystem.Reachable (fun _ _ => True) emptyOutState :=
    .after (.of_init (Endpoint.fresh_init 0x02)) (by decide)
  have hhas : emptyOutState.q.Has 0 0 ((emptyOutState.q.vurbs 0).get (by decide)) :=
    ⟨by decide, (Option.some_get _).symm, by decide⟩
  exact absurd (h emptyOutState hreach (by decide) 0 (by decide) 0 _ hhas) (by decide)

end BceDriver
