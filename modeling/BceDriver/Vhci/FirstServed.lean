import BceDriver.Vhci.Directions
import BceDriver.Vhci.Requests

/-!
# One control transfer at a time

Messages and completions are for the first URB of the list. On endpoint zero every URB
behind it has not sent its setup packet, and no control status is ever deferred.

- `InTurn`: what holds of each linked URB, given which one is the first.
- `reachable_firstServed`: the invariant of all runs.
-/

namespace BceDriver

open FaultState

/-- The URB is not started, or waits for the request of its setup packet. -/
def BceVhciUrb.NotBegun (v : BceVhciUrb) : Prop :=
  v.state = .initPaused ∨ v.state = .controlWaitingForSetupRequest

/-- The URB is of the kind of its endpoint, and a control URB that is not the first one
has not begun. -/
def InTurn (control : Bool) (first : Option Nat)
    (_ : DmaDataDirection → Option TransferSq) (_ : Nat) (v : BceVhciUrb) : Prop :=
  v.isControl = control ∧ (control = true → first ≠ some v.urb → v.NotBegun)

structure FirstServed (q : BceVhciTransferQueue) : Prop where
  urbs : EveryLinked (InTurn q.isControl q.urbList.head?) q
  evq : q.isControl = true → ∀ msg ∈ q.evq, msg.cmd ≠ BCE_VHCI_CMD_CONTROL_TRANSFER_STATUS

/-! ## The first URB -/

section First

variable {l : List Nat} {u w : Nat}

theorem first_of_erase (hl : l.Nodup) (hfirst : l.head? = some u) (hu : u ∈ l.erase w) :
    (l.erase w).head? = some u := by
  cases l with
  | nil => cases hfirst
  | cons a t =>
    obtain rfl := Option.some.inj hfirst
    by_cases hw : a = w
    · subst hw
      exact absurd hu hl.not_mem_erase
    · rw [List.erase_cons_tail (by simpa using hw)]
      rfl

theorem first_of_append (hfirst : l.head? = some u) : (l ++ [w]).head? = some u := by
  rw [List.head?_append, hfirst, Option.some_or]

end First

section Step

variable {s s' : Endpoint} {a : EndpointAction}

theorem HeadHeap.first {q q' : BceVhciTransferQueue} (h : HeadHeap q q') (hnodup : q.urbList.Nodup)
    {u : Nat} (hfirst : q.urbList.head? = some u) (hu : u ∈ q'.urbList) :
    q'.urbList.head? = some u := by
  rcases h with h | ⟨w, urb, v, -, h⟩
  · rwa [h.urbList]
  · rw [h.urbList] at hu ⊢
    exact first_of_erase hnodup hfirst hu

/-- As long as it is linked, the first URB stays the first. -/
theorem StepEffect.first (howned : Owned s) (h : StepEffect s a s') {u : Nat}
    (hfirst : s.q.urbList.head? = some u) (hu : u ∈ s'.q.urbList) :
    s'.q.urbList.head? = some u := by
  have hnodup := howned.urbList_nodup
  cases h with
  | died | activated | freed | gaveRemoved | popped | gave | device => exact hfirst
  | quiet _ hq =>
    rw [hq.flags.urbList]
    exact hfirst
  | enqueued _ _ _ heff =>
    have hlist : _ = s.q.urbList ++ [_] := heff.linked.urbList
    rw [hlist]
    exact first_of_append hfirst
  | refused _ hown _ hr heff =>
    rw [(heff.others hr fun hmem => hown (.inl hmem)).2]
    exact hfirst
  | delivered _ heff => exact heff.heap.first hnodup hfirst hu
  | completed _ heff => exact heff.heap.first hnodup hfirst hu
  | event _ heff => exact heff.heap.first hnodup hfirst hu
  | resumed _ _ hhas heff =>
    rcases heff.heap hhas.vurb with hheap | hheap
    · rwa [hheap.urbList]
    · rw [hheap.urbList] at hu ⊢
      exact first_of_erase hnodup hfirst hu
  | removed => exact first_of_erase hnodup hfirst hu

end Step

/-! ## The URBs behind it -/

section Turn

variable {q q' : BceVhciTransferQueue} {u urb : Nat} {v : BceVhciUrb} {control : Bool}
  {first : Option Nat}

/-- A handler that works on the first URB, or does not begin with one, leaves every URB in turn. -/
theorem EveryLinked.inTurn (h : EveryLinked (InTurn control first) q) (hnodup : q.urbList.Nodup)
    (hu : u ∈ q.urbList) (hhas : q.Has u urb v)
    (hheap : SameHeap q q' ∨ Ended q urb v.urb q')
    (hkind : LeavesUrb (SameKind v) urb q q')
    (hturn : first = some u ∨
      ∀ v', q'.vurbs urb = some v' → v.isControl = true → v.NotBegun → v'.NotBegun) :
    EveryLinked (InTurn control first) q' := by
  obtain ⟨x, hx, hsame⟩ := hkind
  refine h.touches (.of_heap hnodup hheap hx) (fun _ _ _ h => h) fun v' hv' => ?_
  have hat : q'.vurbs urb = some v' := by
    rw [hx, Function.update_self]
    exact hv'
  have hurb : v'.urb = v.urb := by
    rcases hheap with hheap | hheap
    · obtain ⟨v'', hhas'⟩ := hheap.has hhas
      obtain rfl := Option.some.inj (hat.symm.trans hhas'.vurb)
      exact hhas'.urb_eq.trans hhas.urb_eq.symm
    · rw [hheap.freed] at hat
      cases hat
  obtain ⟨hcontrol, hwaits⟩ := h u hu urb v hhas
  refine ⟨(hsame v' hv').isControl.trans hcontrol, fun hc hne => ?_⟩
  rw [hurb] at hne
  rcases hturn with hfirst | hturn
  · rw [hhas.urb_eq] at hne
    exact absurd hfirst hne
  · exact hturn v' hat (hcontrol.trans hc) (hwaits hc hne)

/-- Resuming a control URB does not begin with it. -/
theorem ResumeEffect.notBegun (hv : q.vurbs urb = some v) (h : ResumeEffect q urb v q') :
    ∀ v', q'.vurbs urb = some v' → v.isControl = true → v.NotBegun → v'.NotBegun := by
  intro v' hv' hc hn
  have hwaits : v.state ≠ .waitingForCompletion := by
    intro hs
    rcases hn with hn | hn <;> simp [hs] at hn
  cases h with
  | unchanged =>
    obtain rfl := Option.some.inj (hv.symm.trans hv')
    exact hn
  | init _ h =>
    cases h with
    | control =>
      rw [BceVhciTransferQueue.setVurb_vurbs, Function.update_self] at hv'
      obtain rfl := Option.some.inj hv'
      exact .inr rfl
    | out hc' | startedIn hc' | failed hc' =>
      rw [hc] at hc'
      cases hc'
  | restarted hs => exact absurd hs hwaits
  | failed hs => exact absurd hs hwaits

theorem CreateEffect.inTurn {r : Int} (heff : CreateEffect q u r q')
    (h : EveryLinked (InTurn q.isControl first) q) :
    EveryLinked (InTurn q.isControl first) q' := by
  have hfresh : InTurn q.isControl first q.sqs q.nextVurb (freshVurb q u) :=
    ⟨rfl, fun _ _ => .inl rfl⟩
  refine h.create hfresh (fun hlink q' r hi => ?_) heff
  have hv : (q.link u).vurbs q.nextVurb = some (freshVurb q u) := Function.update_self ..
  obtain ⟨x, hx, hkind⟩ := hi.sameKind hv
  refine hlink.touches (.of_same (hi.heap hv) hx) (fun _ _ _ h => h) fun v' hv' => ?_
  refine ⟨(hkind v' hv').isControl, fun hc _ => ?_⟩
  cases hi with
  | control =>
    rw [BceVhciTransferQueue.setVurb_vurbs] at hx
    have hat := congrFun hx q.nextVurb
    rw [Function.update_self, Function.update_self] at hat
    obtain rfl := Option.some.inj (hat.trans hv')
    exact .inr rfl
  | out hc' | startedIn hc' | failed hc' =>
    have hcontrol : q.isControl = false := hc'
    rw [hc] at hcontrol
    cases hcontrol

end Turn

/-! ## The deferred messages -/

section Deferred

variable {s s' : Endpoint} {a : EndpointAction}

/-- The deferred messages are those there were, and what the control endpoint defers is
not a status. -/
def Defers (s s' : Endpoint) : Prop :=
  ∀ msg ∈ s'.q.evq, msg ∈ s.q.evq ∨
    (s.q.isControl = true → msg.cmd ≠ BCE_VHCI_CMD_CONTROL_TRANSFER_STATUS)

theorem Defers.of_eq (h : s'.q.evq = s.q.evq) : Defers s s' :=
  fun _ hmsg => .inl (h ▸ hmsg)

theorem EventEffect.defers {msg : BceVhciMessage} {q' : BceVhciTransferQueue}
    {lock : List LockOp} {first : Option Nat}
    (hlinked : EveryLinked (InTurn s.q.isControl first) s.q) (h : EventEffect s.q msg q') :
    Defers s { s with q := q', lock := lock } := by
  intro msg' hmem
  cases h with
  | dropped => exact .inl hmem
  | queued hcmd =>
    refine (List.mem_append.mp hmem).imp id fun hmem => ?_
    obtain rfl := List.mem_singleton.mp hmem
    rw [hcmd]
    exact fun _ => by decide
  | deferred hhead _ hup =>
    have hevq := hup.evq
    refine (List.mem_append.mp hmem).imp (fun hmem => hevq ▸ hmem) fun hmem => ?_
    obtain rfl := List.mem_singleton.mp hmem
    intro hc
    have hkind := (hlinked _ (Head.mem hhead) _ _ hhead.toHas).1
    cases hup with
    | deferred hstatus => exact hstatus (hkind.trans hc)
    | refused hr => exact absurd rfl hr
  | updated _ _ hup => exact .inl (hup.evq ▸ hmem)

theorem lockStep_defers {first : Option Nat} (howned : Owned s)
    (hlinked : EveryLinked (InTurn s.q.isControl first) s.q) (hstep : s.lockStep = some s') :
    Defers s s' := by
  cases lockStep_branch hstep with
  | deliver =>
    refine Endpoint.exec_wp (deliverRound_outcome s.q) (fun more q' hout => ?_)
      fun _ _ => .of_eq rfl
    cases hout with
    | kept heq => exact .of_eq heq
    | took hevq hevq' =>
      refine fun msg hmem => .inl ?_
      rw [hevq]
      exact List.mem_cons_of_mem _ (hevq' ▸ hmem)
  | event =>
    exact Endpoint.exec_wp (eventBody_spec (E := fun _ => True) howned.live _
      fun _ _ _ _ => trivial)
      (fun _ q' heff => heff.defers hlinked) fun _ _ => .of_eq rfl
  | completions =>
    exact Endpoint.exec_wp (completionRound_evq s.q _) (fun _ _ heq => .of_eq heq)
      fun _ _ => .of_eq rfl
  | resume =>
    exact Endpoint.exec_wp (resumeUrb_evq s.q _) (fun _ _ heq => .of_eq heq)
      fun _ _ => .of_eq rfl
  | resumed | giveback | back => exact .of_eq rfl

theorem Defers.of_replied {reply : CommandOutcome} (h : s'.q = s.q.replied reply) :
    Defers s s' := by
  obtain ⟨state, hstate⟩ := s.q.replied_eq reply
  exact .of_eq (by rw [h, hstate])

/-- The work item drops deferred messages at most. -/
theorem workStep_defers {reply : CommandOutcome} {aborted : Nat} (howned : Owned s)
    (hstep : s.workStep reply aborted = some s') : Defers s s' := by
  cases workStep_branch hstep with
  | removePending =>
    intro msg hmem
    cases hmem
  | pauseCommand =>
    refine Endpoint.exec_ok pauseCommand_spec fun r q' hq' => ?_
    split
    · exact .of_replied hq'.1
    · exact .of_replied hq'.1
  | resumeCommand =>
    exact Endpoint.exec_ok resumeCommand_spec fun r q' hq' => .of_replied hq'.1
  | @flush d ops =>
    refine Endpoint.exec_ok (P := fun _ q' => q'.evq = s.q.evq) ?_ fun _ _ heq => .of_eq heq
    rw [wp_flush]
    cases s.q.sqs d with
    | some t => rfl
    | none => rfl
  | @remove u status ops =>
    refine Endpoint.exec_ok (removeBody_spec s.q u status) fun r q' hrem => ?_
    have hevq : q'.evq = s.q.evq := by
      cases hrem with
      | refused => rfl
      | removed => rfl
    split
    · split
      · exact .of_eq hevq
      · exact .of_eq hevq
    · exact .of_eq hevq
  | kfree hops =>
    refine Endpoint.exec_ok (howned.kfree hops) fun _ q' hq' => .of_eq ?_
    rw [hq']
  | deactivate | activate | giveback | resumeUnlessFwPaused | returnUnlessStalled | resetCommand
  | clearStalled | setFwPaused | stall => exact .of_eq rfl

theorem step_defers {first : Option Nat} (howned : Owned s)
    (hlinked : EveryLinked (InTurn s.q.isControl first) s.q) (hstep : Endpoint.step a s = some s') :
    Defers s s' := by
  obtain ⟨-, hbranch⟩ := step_branch hstep
  cases hbranch with
  | lockStep hlock => exact lockStep_defers howned hlinked hlock
  | workStep hwork => exact workStep_defers howned hwork
  | @enqueue u request linked =>
    unfold Endpoint.enqueue
    refine Endpoint.exec_wp (s := { s with q := s.q.fill u request })
      (createBody_spec (E := fun _ => True) u (fun _ _ => trivial) linked)
      (fun r q' heff => ?_) fun f _ => .of_eq rfl
    split
    · exact .of_eq heff.evq
    · exact .of_eq heff.evq
  | @dequeue u status =>
    refine Endpoint.exec_ok (checkUnlink_spec s.q u) fun r q' hq' => .of_eq ?_
    rw [hq'.1]
  | endpointReset | event | completion | pop | leave | give | startCancel | startReset
  | startFirmware | complete | accept | async => exact .of_eq rfl

end Deferred

/-! ## All runs -/

section Served

variable {s s' : Endpoint} {a : EndpointAction}

/-- An update of the first URB. -/
theorem FirstServed.update (hserved : FirstServed s.q) (hnodup : s.q.urbList.Nodup) {u urb : Nat}
    {v : BceVhciUrb} {msg : BceVhciMessage} {r : Int} {q' : BceVhciTransferQueue}
    (hhead : s.q.Head u urb v) (hup : UpdateEffect s.q urb v msg r q') :
    EveryLinked (InTurn s.q.isControl s.q.urbList.head?) q' := by
  obtain ⟨us, hlist⟩ := hhead.first
  exact hserved.urbs.inTurn hnodup (Head.mem hhead) hhead.toHas (hup.heap hhead.vurb)
    (hup.sameKind hhead.vurb) (.inl (by rw [hlist]; rfl))

/-- A round of the loop over the completions. -/
theorem FirstServed.completionRound (hserved : FirstServed s.q) (hnodup : s.q.urbList.Nodup)
    {d : DmaDataDirection} {more : Bool} {q' : BceVhciTransferQueue}
    (hround : CompletionRoundEffect s.q d more q') :
    EveryLinked (InTurn s.q.isControl s.q.urbList.head?) q' := by
  refine hserved.urbs.completionRound id (fun {t c sq u urb v q₁} _ _ _ hhead hc hcons => ?_) hround
  have hhas : (s.q.consume d t sq).Has u urb v := (hhead.consume d t sq).toHas
  have hu : u ∈ s.q.urbList := Head.mem hhead
  obtain ⟨us, hlist⟩ := hhead.first
  exact hcons.inTurn hnodup hu hhas (hc.heap hhas.vurb) (hc.sameKind hhas.vurb)
    (.inl (by rw [hlist]; rfl))

/-- The URBs after a step, with the first URB of before the step. -/
theorem FirstServed.step (hserved : FirstServed s.q) (howned : Owned s)
    (heff : StepEffect s a s') : EveryLinked (InTurn s.q.isControl s.q.urbList.head?) s'.q := by
  have hnodup := howned.urbList_nodup
  refine hserved.urbs.step heff (fun _ _ _ r q' _ _ _ hcreate hfill => hcreate.inTurn hfill)
    (fun more q' hround => hserved.urbs.deliver (hserved.update hnodup) hround)
    (fun d ops more q' _ _ hround => hserved.completionRound hnodup hround)
    (fun msg q' hround => hserved.urbs.event (hserved.update hnodup) hround)
    (fun u us ops urb v q' _ _ hu hhas hround => ?_)
    (fun d t t' _ _ => hserved.urbs.of_sqs rfl rfl rfl fun _ _ hv => hv)
  exact hserved.urbs.inTurn hnodup hu hhas (hround.heap hhas.vurb) (hround.sameKind hhas.vurb)
    (.inr (hround.notBegun hhas.vurb))

end Served

/-- **The first URB is served alone**, in every run: whatever the guard on the steps. -/
theorem reachable_firstServed {G : EndpointAction → Endpoint → Prop} {s : Endpoint}
    (h : endpointSystem.Reachable G s) : FirstServed s.q := by
  refine StepSystem.Reachable.invariant (I := fun s => FirstServed s.q) ?_ ?_ h
  · rintro s ⟨address, devAddr, qidIn, qidOut, urbs, m, w, rfl⟩
    refine ⟨fun u hu => ?_, fun _ msg hmsg => ?_⟩
    · simp [Endpoint.start, bceVhciCreateTransferQueue] at hu
    · simp [Endpoint.start, bceVhciCreateTransferQueue] at hmsg
  · intro a s s' hreach hserved _ hstep
    have howned := reachable_owned hreach
    have heff := step_spec howned hstep
    have hkind : s'.q.isControl = s.q.isControl := by
      unfold BceVhciTransferQueue.isControl
      rw [heff.address]
    refine ⟨fun u hu urb v hhas => ?_, fun hc msg hmsg => ?_⟩
    · obtain ⟨hcontrol, hwaits⟩ := hserved.step howned heff u hu urb v hhas
      rw [hkind]
      -- a first URB that is still linked is still the first
      refine ⟨hcontrol, fun hc hne => hwaits hc fun hfirst => hne ?_⟩
      rw [hhas.urb_eq] at hfirst ⊢
      exact heff.first howned hfirst hu
    · rw [hkind] at hc
      rcases step_defers howned hserved.urbs hstep msg hmsg with hmem | hdeferred
      · exact hserved.evq hc msg hmem
      · exact hdeferred hc

end BceDriver
