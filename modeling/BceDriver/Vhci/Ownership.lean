import BceDriver.Vhci.TransferRounds
import BceDriver.Vhci.TransferRun
import Mathlib.Data.List.Nodup
import Mathlib.Data.List.Perm.Basic

/-!
# Who owns a URB

Every enqueue the driver accepted is in one place: linked, on its way to the USB
core, or given back. `Owned` is the invariant of all runs of an endpoint; it
carries, place by place, whether the `bce_vhci_urb` of the enqueue is still
allocated, which is why no handler ever reads a freed one.

- `SameHeap`, `Ended`: all a handler can do to the list of URBs and to their
  `bce_vhci_urb`s.
- `Endpoint.held`: the URBs the driver has, in the order of the places they are in.
-/

namespace BceDriver

open FaultState

/-! ## What handlers do to URBs -/

/-- Every URB is where it was, with its `bce_vhci_urb`. -/
structure SameHeap (q q' : BceVhciTransferQueue) : Prop where
  urbList : q'.urbList = q.urbList
  givebackUrbList : q'.givebackUrbList = q.givebackUrbList
  hcpriv : ∀ u, (q'.urbs u).hcpriv = (q.urbs u).hcpriv
  enqueue : ∀ u, (q'.urbs u).enqueue = (q.urbs u).enqueue
  vurbs : ∀ urb, (q'.vurbs urb).map BceVhciUrb.urb = (q.vurbs urb).map BceVhciUrb.urb
  nextVurb : q'.nextVurb = q.nextVurb

/-- The URB at `u` is completed, its `bce_vhci_urb` at `urb` freed. -/
structure Ended (q : BceVhciTransferQueue) (urb u : Nat) (q' : BceVhciTransferQueue) : Prop where
  urbList : q'.urbList = q.urbList.erase u
  givebackUrbList : q'.givebackUrbList = q.givebackUrbList ++ [u]
  hcpriv : ∀ u', u' ≠ u → (q'.urbs u').hcpriv = (q.urbs u').hcpriv
  enqueue : ∀ u', (q'.urbs u').enqueue = (q.urbs u').enqueue
  freed : q'.vurbs urb = none
  vurbs : ∀ urb', urb' ≠ urb →
    (q'.vurbs urb').map BceVhciUrb.urb = (q.vurbs urb').map BceVhciUrb.urb
  nextVurb : q'.nextVurb = q.nextVurb

namespace SameHeap

variable {q q' q₁ : BceVhciTransferQueue} {urb : Nat} {v v' : BceVhciUrb}

theorem refl (q : BceVhciTransferQueue) : SameHeap q q :=
  ⟨rfl, rfl, fun _ => rfl, fun _ => rfl, fun _ => rfl, rfl⟩

theorem trans (h : SameHeap q q₁) (h' : SameHeap q₁ q') : SameHeap q q' where
  urbList := h'.urbList.trans h.urbList
  givebackUrbList := h'.givebackUrbList.trans h.givebackUrbList
  hcpriv := fun u => (h'.hcpriv u).trans (h.hcpriv u)
  enqueue := fun u => (h'.enqueue u).trans (h.enqueue u)
  vurbs := fun urb => (h'.vurbs urb).trans (h.vurbs urb)
  nextVurb := h'.nextVurb.trans h.nextVurb

theorem setVurb (hv : q.vurbs urb = some v) (hu : v'.urb = v.urb) :
    SameHeap q (q.setVurb urb v') where
  urbList := rfl
  givebackUrbList := rfl
  hcpriv := fun _ => rfl
  enqueue := fun _ => rfl
  vurbs := by
    intro urb'
    by_cases h : urb' = urb
    · subst h
      simp [hv, hu]
    · simp [h]
  nextVurb := rfl

theorem setSq (q : BceVhciTransferQueue) (d : DmaDataDirection) (t : TransferSq) :
    SameHeap q (q.setSq d t) :=
  ⟨rfl, rfl, fun _ => rfl, fun _ => rfl, fun _ => rfl, rfl⟩

theorem setAsync (q : BceVhciTransferQueue) (m : BceVhciMessageQueue) (w : List Wakeup) :
    SameHeap q (q.setAsync m w) :=
  ⟨rfl, rfl, fun _ => rfl, fun _ => rfl, fun _ => rfl, rfl⟩

theorem setUrb (u : Nat) {x : Urb} (hp : x.hcpriv = (q.urbs u).hcpriv)
    (he : x.enqueue = (q.urbs u).enqueue) : SameHeap q (q.setUrb u x) where
  urbList := rfl
  givebackUrbList := rfl
  hcpriv := by
    intro u'
    by_cases h : u' = u
    · subst h
      simpa using hp
    · simp [h]
  enqueue := by
    intro u'
    by_cases h : u' = u
    · subst h
      simpa using he
    · simp [h]
  vurbs := fun _ => rfl
  nextVurb := rfl

theorem of_waited (h : Waited q q') : SameHeap q q' := by
  rw [h.frame]
  exact ⟨rfl, rfl, fun _ => rfl, fun _ => rfl, fun _ => rfl, rfl⟩

theorem of_startedIn {timeout : Nat} (hv : q.vurbs urb = some v)
    (h : StartedIn timeout q urb v q') : SameHeap q q' := by
  obtain ⟨t, -, -, hq'⟩ := h.slot
  rw [hq']
  refine ((setSq q _ _).trans (setVurb hv ?_)).trans (setAsync _ _ _)
  rfl

theorem setEvq (q : BceVhciTransferQueue) (evq : List BceVhciMessage) :
    SameHeap q { q with evq := evq } :=
  ⟨rfl, rfl, fun _ => rfl, fun _ => rfl, fun _ => rfl, rfl⟩

theorem of_setActualLength (q : BceVhciTransferQueue) (u n : Nat) :
    SameHeap q (q.setActualLength u n) :=
  setUrb u rfl rfl

/-- A `bce_vhci_urb` is allocated exactly where it was. -/
theorem vurbs_eq_none (h : SameHeap q q') : q'.vurbs urb = none ↔ q.vurbs urb = none := by
  have hv := h.vurbs urb
  rw [← Option.map_eq_none_iff (f := BceVhciUrb.urb), hv, Option.map_eq_none_iff]

/-- A URB keeps its `bce_vhci_urb`. -/
theorem has (h : SameHeap q q') {u : Nat} (hhas : q.Has u urb v) : ∃ v', q'.Has u urb v' := by
  have hv := h.vurbs urb
  rw [hhas.vurb, Option.map_some, hhas.urb_eq, Option.map_eq_some_iff] at hv
  obtain ⟨v', hv', hu⟩ := hv
  exact ⟨v', (h.hcpriv u).trans hhas.hcpriv, hv', hu⟩

end SameHeap

namespace Ended

variable {q q' q₁ : BceVhciTransferQueue} {urb u : Nat}

theorem of_same (h : SameHeap q q₁) (h' : Ended q₁ urb u q') : Ended q urb u q' where
  urbList := by rw [h'.urbList, h.urbList]
  givebackUrbList := by rw [h'.givebackUrbList, h.givebackUrbList]
  hcpriv := fun u' hu => (h'.hcpriv u' hu).trans (h.hcpriv u')
  enqueue := fun u' => (h'.enqueue u').trans (h.enqueue u')
  freed := h'.freed
  vurbs := fun urb' hurb => (h'.vurbs urb' hurb).trans (h.vurbs urb')
  nextVurb := h'.nextVurb.trans h.nextVurb

theorem trans_same (h : Ended q urb u q₁) (h' : SameHeap q₁ q') : Ended q urb u q' where
  urbList := by rw [h'.urbList, h.urbList]
  givebackUrbList := by rw [h'.givebackUrbList, h.givebackUrbList]
  hcpriv := fun u' hu => (h'.hcpriv u').trans (h.hcpriv u' hu)
  enqueue := fun u' => (h'.enqueue u').trans (h.enqueue u')
  freed := h'.vurbs_eq_none.mpr h.freed
  vurbs := fun urb' hurb => (h'.vurbs urb').trans (h.vurbs urb' hurb)
  nextVurb := h'.nextVurb.trans h.nextVurb

theorem complete (q : BceVhciTransferQueue) (urb u : Nat) (status : Int) :
    Ended q urb u (q.complete urb u status) where
  urbList := rfl
  givebackUrbList := rfl
  hcpriv := by
    intro u' hu
    simp [BceVhciTransferQueue.complete, hu]
  enqueue := by
    intro u'
    by_cases h : u' = u
    · subst h
      simp [BceVhciTransferQueue.complete]
    · simp [BceVhciTransferQueue.complete, h]
  freed := Function.update_self ..
  vurbs := by
    intro urb' hurb
    simp [BceVhciTransferQueue.complete, hurb]
  nextVurb := rfl

theorem settle (q : BceVhciTransferQueue) (urb u receivedStatus : Nat) :
    Ended q urb u (q.settle urb u receivedStatus) := by
  unfold BceVhciTransferQueue.settle
  split
  · have h := complete q.stall urb u (-EPIPE)
    exact ⟨h.urbList, h.givebackUrbList, h.hcpriv, h.enqueue, h.freed, h.vurbs, h.nextVurb⟩
  · exact complete q urb u 0

end Ended

section Effects

variable {q q' : BceVhciTransferQueue} {urb : Nat} {v : BceVhciUrb}

theorem UpdateEffect.heap {msg : BceVhciMessage} {r : Int} (hv : q.vurbs urb = some v)
    (h : UpdateEffect q urb v msg r q') : SameHeap q q' ∨ Ended q urb v.urb q' := by
  cases h with
  | deferred => exact .inl (.refl q)
  | refused => exact .inl (.refl q)
  | setup => exact .inl ((SameHeap.setSq q _ _).trans (.setVurb hv rfl))
  | out => exact .inl ((SameHeap.setSq q _ _).trans (.setVurb hv rfl))
  | outSettled => exact .inr (.of_same (.setSq q _ _) (.settle _ _ _ _))
  | status => exact .inl (.setVurb hv rfl)
  | settled => exact .inr (.settle _ _ _ _)

theorem CompletionEffect.heap {c : BceSqCompletionData} (hv : q.vurbs urb = some v)
    (h : CompletionEffect q urb v c q') : SameHeap q q' ∨ Ended q urb v.urb q' := by
  cases h with
  | ignored => exact .inl (.refl q)
  | progress => exact .inl (.setVurb hv rfl)
  | dataDone => exact .inl ((SameHeap.of_setActualLength q _ _).trans (.setVurb hv rfl))
  | done => exact .inr (.of_same (.of_setActualLength q _ _) (.complete _ _ _ _))
  | doneSettled => exact .inr (.of_same (.of_setActualLength q _ _) (.settle _ _ _ _))
  | settled => exact .inr (.settle _ _ _ _)
  | startedIn _ _ _ h => exact .inl (.of_startedIn hv h)
  | startFailed _ _ _ h => exact .inr (.of_same (.of_waited h.waited) (.complete _ _ _ _))
  | startedOut => exact .inl (.setVurb hv rfl)

theorem InitEffect.heap {r : Int} (hv : q.vurbs urb = some v) (h : InitEffect q urb v r q') :
    SameHeap q q' := by
  cases h with
  | control => exact .setVurb hv rfl
  | out => exact .setVurb hv rfl
  | startedIn _ _ h => exact .of_startedIn hv h
  | failed _ _ h => exact .of_waited h.waited

/-- A round that works on the head of the list. -/
def HeadHeap (q q' : BceVhciTransferQueue) : Prop :=
  SameHeap q q' ∨ ∃ u urb v, q.Head u urb v ∧ Ended q urb u q'

theorem HeadHeap.of_urb {u : Nat} (hhead : q.Head u urb v)
    (h : SameHeap q q' ∨ Ended q urb v.urb q') : HeadHeap q q' :=
  h.imp id fun h => ⟨u, urb, v, hhead, hhead.urb_eq ▸ h⟩

theorem HeadHeap.trans_same {q₁ : BceVhciTransferQueue} (h : HeadHeap q q₁)
    (h' : SameHeap q₁ q') : HeadHeap q q' := by
  rcases h with h | ⟨u, urb, v, hhead, h⟩
  · exact .inl (h.trans h')
  · exact .inr ⟨u, urb, v, hhead, h.trans_same h'⟩

/-- A queue whose URBs stay where they are stays live. -/
theorem SameHeap.live (h : SameHeap q q') (hlive : q.Live) : q'.Live := by
  intro u hu
  rw [h.urbList] at hu
  obtain ⟨urb, v, hhas⟩ := hlive u hu
  obtain ⟨v', hv'⟩ := h.has hhas
  exact ⟨urb, v', hv'⟩

/-- Ending a URB keeps the list live. -/
theorem Ended.live {u : Nat} (h : Ended q urb u q') (hhas : q.Has u urb v) (hlive : q.Live)
    (hnodup : q.urbList.Nodup) : q'.Live ∧ q'.urbList.Nodup := by
  have hlist := h.urbList
  refine ⟨fun u' hu' => ?_, hlist ▸ hnodup.erase u⟩
  rw [hlist] at hu'
  have hne : u' ≠ u := by
    rintro rfl
    exact hnodup.not_mem_erase hu'
  obtain ⟨urb', v', hhas'⟩ := hlive u' (List.mem_of_mem_erase hu')
  have hurb : urb' ≠ urb := by
    rintro rfl
    have hv := Option.some.inj (hhas'.vurb.symm.trans hhas.vurb)
    exact hne (hhas'.urb_eq ▸ hv ▸ hhas.urb_eq)
  have hv := h.vurbs urb' hurb
  rw [hhas'.vurb, Option.map_some, hhas'.urb_eq, Option.map_eq_some_iff] at hv
  obtain ⟨v'', hv'', hu''⟩ := hv
  exact ⟨urb', v'', (h.hcpriv u' hne).trans hhas'.hcpriv, hv'', hu''⟩

/-- What a handler may do to the URB it works on keeps the list live. -/
theorem live_of_heap {u : Nat} (hhas : q.Has u urb v) (h : SameHeap q q' ∨ Ended q urb v.urb q')
    (hlive : q.Live) (hnodup : q.urbList.Nodup) : q'.Live ∧ q'.urbList.Nodup := by
  rcases h with h | h
  · exact ⟨h.live hlive, h.urbList ▸ hnodup⟩
  · rw [hhas.urb_eq] at h
    exact h.live hhas hlive hnodup

/-- Rounds on the head of the list keep the list live. -/
theorem HeadHeap.live (h : HeadHeap q q') (hlive : q.Live) (hnodup : q.urbList.Nodup) :
    q'.Live ∧ q'.urbList.Nodup := by
  rcases h with h | ⟨u, urb, v, hhead, h⟩
  · exact ⟨h.live hlive, h.urbList ▸ hnodup⟩
  · exact h.live hhead.toHas hlive hnodup

theorem DeliverEffect.heap {more : Bool} (h : DeliverEffect q more q') : HeadHeap q q' := by
  cases h with
  | idle => exact .inl (.refl q)
  | blocked hhead _ hup => exact .of_urb hhead (hup.heap hhead.vurb)
  | delivered hhead _ hup =>
    exact (HeadHeap.of_urb hhead (hup.heap hhead.vurb)).trans_same (.setEvq _ _)

theorem EventEffect.heap {msg : BceVhciMessage} (h : EventEffect q msg q') : HeadHeap q q' := by
  cases h with
  | dropped => exact .inl (.refl q)
  | queued => exact .inl (.setEvq _ _)
  | deferred hhead _ hup =>
    exact (HeadHeap.of_urb hhead (hup.heap hhead.vurb)).trans_same (.setEvq _ _)
  | updated hhead _ hup => exact .of_urb hhead (hup.heap hhead.vurb)

theorem CompletionRoundEffect.heap {d : DmaDataDirection} {more : Bool}
    (h : CompletionRoundEffect q d more q') : HeadHeap q q' := by
  cases h with
  | idle => exact .inl (.refl q)
  | skipped => exact .inl (.setSq _ _ _)
  | @completed t t' c sq u urb v q₁ _ _ _ hhead hc _ =>
    have hsame : SameHeap q (q.consume d t sq) := .setSq _ _ _
    have hround : SameHeap q q₁ ∨ Ended q urb v.urb q₁ := by
      have hv : (q.consume d t sq).vurbs urb = some v := hhead.vurb
      exact (hc.heap hv).imp hsame.trans (Ended.of_same hsame)
    exact (HeadHeap.of_urb hhead hround).trans_same (.setSq _ _ _)

theorem ResumeEffect.heap (hv : q.vurbs urb = some v) (h : ResumeEffect q urb v q') :
    SameHeap q q' ∨ Ended q urb v.urb q' := by
  cases h with
  | unchanged => exact .inl (.refl q)
  | init _ h => exact .inl (h.heap hv)
  | restarted _ h => exact .inl (.of_startedIn hv h)
  | failed _ h => exact .inr (.of_same (.of_waited h.waited) (.complete _ _ _ _))

end Effects

/-! ## The contexts -/

/-- A step of a program of the lock holder that is not about the worker. -/
def LockOp.Plain : LockOp → Prop
  | .resume _ | .back => False
  | _ => True

/-- The programs the holder of `urb_lock` can have; the flag says that it is the
worker. -/
inductive LockOk : List LockOp → Bool → Prop where
  | plain {ops : List LockOp} : (∀ op ∈ ops, op.Plain) → LockOk ops false
  | resume {us : List Nat} : LockOk [.resume us, .deliver, .back] true
  | deliver : LockOk [.deliver, .back] true
  | back : LockOk [.back] true

/-- The next step of a program leaves a program. -/
theorem LockOk.tail {op : LockOp} {ops : List LockOp} {b : Bool} (h : LockOk (op :: ops) b)
    (hop : op ≠ .back) : LockOk ops b := by
  cases h with
  | plain h => exact .plain fun op' hop' => h op' (List.mem_cons_of_mem _ hop')
  | resume => exact .deliver
  | deliver => exact .back
  | back => exact absurd rfl hop

/-- The URBs the resume loop has not visited yet. -/
def Endpoint.resuming (s : Endpoint) : List Nat :=
  match s.lock with
  | .resume us :: _ => us
  | _ => []

/-- Only the first step of a program is ever the resume loop. -/
theorem LockOk.resuming_tail {op : LockOp} {ops : List LockOp} {b : Bool}
    (h : LockOk (op :: ops) b) (s : Endpoint) (hs : s.lock = ops) : s.resuming = [] := by
  unfold Endpoint.resuming
  rw [hs]
  cases h with
  | plain h =>
    cases ops with
    | nil => rfl
    | cons op' ops =>
      have hplain := h op' (List.mem_cons_of_mem _ List.mem_cons_self)
      cases op' with
      | resume us => exact absurd hplain id
      | _ => rfl
  | resume => rfl
  | deliver => rfl
  | back => rfl

/-- A step of a work item that neither holds a URB nor waits for the lock. -/
def WorkOp.Plain : WorkOp → Prop
  | .locked | .kfree _ | .giveback _ => False
  | _ => True

/-- The programs a work item can have, with the URB it took off the list; the
flag says that it holds `urb_lock`. -/
inductive WorkerOwns (q : BceVhciTransferQueue) : List WorkOp → Bool → Prop where
  | plain {ops : List WorkOp} : (∀ op ∈ ops, op.Plain) → WorkerOwns q ops false
  | freeing {u : Nat} {v : BceVhciUrb} {ops : List WorkOp} :
      q.vurbs (q.urbs u).enqueue = some v → (∀ op ∈ ops, op.Plain) →
      WorkerOwns q (.kfree (q.urbs u).enqueue :: .giveback u :: ops) false
  | freed {u : Nat} {ops : List WorkOp} : q.vurbs (q.urbs u).enqueue = none →
      (∀ op ∈ ops, op.Plain) → WorkerOwns q (.giveback u :: ops) false
  | locked {ops : List WorkOp} : WorkerOwns q ops false → WorkerOwns q (.locked :: ops) true

namespace Endpoint

@[simp] theorem workHeld_nil : workHeld [] = [] := rfl

@[simp] theorem workHeld_giveback (u : Nat) (ops : List WorkOp) :
    workHeld (.giveback u :: ops) = u :: workHeld ops := rfl

@[simp] theorem workHeld_kfree (urb : Nat) (ops : List WorkOp) :
    workHeld (.kfree urb :: ops) = workHeld ops := rfl

@[simp] theorem workHeld_locked (ops : List WorkOp) :
    workHeld (.locked :: ops) = workHeld ops := rfl

/-- A plain program holds no URB. -/
theorem workHeld_plain {ops : List WorkOp} (h : ∀ op ∈ ops, op.Plain) : workHeld ops = [] := by
  unfold workHeld
  rw [List.filterMap_eq_nil_iff]
  intro op hop
  cases op with
  | giveback u => exact absurd (h _ hop) id
  | _ => rfl

/-- The URBs the driver has. -/
def held (s : Endpoint) : List Nat :=
  s.q.urbList ++ s.q.givebackUrbList ++ s.popped ++ workHeld s.worker

theorem mem_held {s : Endpoint} {u : Nat} : u ∈ s.held ↔ s.Owns u := by
  simp [held, Owns]

/-- The name of the enqueue the URB at `u` is in. -/
def enqueueOf (s : Endpoint) (u : Nat) : Nat := (s.q.urbs u).enqueue

end Endpoint

/-- Every accepted enqueue is in one place, and every place keeps what it
promises about the `bce_vhci_urb`. -/
structure Owned (s : Endpoint) : Prop where
  places : (s.held.map s.enqueueOf ++ s.givenBack).Perm s.accepted
  distinct : s.accepted.Nodup
  old : ∀ e ∈ s.accepted, e < s.q.nextVurb
  linked : ∀ u ∈ s.q.urbList, ∃ v, s.q.Has u (s.enqueueOf u) v
  freed : ∀ u ∈ s.q.givebackUrbList ++ s.popped, s.q.vurbs (s.enqueueOf u) = none
  contexts : ∃ b, LockOk s.lock b ∧ WorkerOwns s.q s.worker b
  resuming : s.resuming.Nodup ∧ ∀ u ∈ s.resuming, u ∈ s.q.urbList

namespace Owned

variable {s s' : Endpoint} {u u' urb : Nat} {v : BceVhciUrb}

theorem live (h : Owned s) : s.q.Live := by
  intro u hu
  obtain ⟨v, hv⟩ := h.linked u hu
  exact ⟨_, v, hv⟩

theorem nodup (h : Owned s) : (s.held.map s.enqueueOf).Nodup :=
  List.Nodup.of_append_left (h.places.nodup_iff.mpr h.distinct)

theorem held_nodup (h : Owned s) : s.held.Nodup := List.Nodup.of_map _ h.nodup

/-- Two URBs the driver has are in different enqueues. -/
theorem enqueue_inj (h : Owned s) (hu : u ∈ s.held) (hu' : u' ∈ s.held)
    (heq : s.enqueueOf u = s.enqueueOf u') : u = u' :=
  List.inj_on_of_nodup_map h.nodup hu hu' heq

theorem accepted_of_held (h : Owned s) (hu : u ∈ s.held) : s.enqueueOf u ∈ s.accepted :=
  h.places.mem_iff.mp (List.mem_append_left _ (List.mem_map_of_mem hu))

/-- An enqueue whose URB the driver has was not given back. -/
theorem not_givenBack (h : Owned s) (hu : u ∈ s.held) : s.enqueueOf u ∉ s.givenBack := fun hg =>
  List.disjoint_of_nodup_append (h.places.nodup_iff.mpr h.distinct) (List.mem_map_of_mem hu) hg

/-- A `bce_vhci_urb` is the name of the enqueue it belongs to. -/
theorem urb_eq (h : Owned s) (hu : u ∈ s.q.urbList) (hhas : s.q.Has u urb v) :
    urb = s.enqueueOf u := by
  obtain ⟨v', hv'⟩ := h.linked u hu
  exact Option.some.inj (hhas.hcpriv.symm.trans hv'.hcpriv)

end Owned

/-! ## One step -/

section Steps

variable {s s' : Endpoint} {q q' : BceVhciTransferQueue}

/-- The worker's promise is about the `bce_vhci_urb`s of the URBs it holds. -/
theorem WorkerOwns.congr {ops : List WorkOp} {b : Bool} (h : WorkerOwns q ops b)
    (hu : ∀ u ∈ Endpoint.workHeld ops, (q'.urbs u).enqueue = (q.urbs u).enqueue ∧
      (q'.vurbs (q.urbs u).enqueue).map BceVhciUrb.urb =
        (q.vurbs (q.urbs u).enqueue).map BceVhciUrb.urb) : WorkerOwns q' ops b := by
  induction h with
  | plain h => exact .plain h
  | @freeing u v ops hv h =>
    obtain ⟨he, hv'⟩ := hu u (by simp)
    rw [hv, Option.map_some, Option.map_eq_some_iff] at hv'
    obtain ⟨v', hv', -⟩ := hv'
    rw [← he] at hv' ⊢
    exact .freeing hv' h
  | @freed u ops hv h =>
    obtain ⟨he, hv'⟩ := hu u (by simp)
    rw [hv, Option.map_none, Option.map_eq_none_iff, ← he] at hv'
    exact .freed hv' h
  | locked _ ih => exact .locked (ih hu)

/-- A step after which every enqueue is still somewhere: `gone` are the URBs
given back in it. -/
theorem Owned.of_moved (h : Owned s) (gone : List Nat) (hheld : (s'.held ++ gone).Perm s.held)
    (henq : s'.enqueueOf = s.enqueueOf)
    (hg : s'.givenBack = s.givenBack ++ gone.map s.enqueueOf)
    (ha : s'.accepted = s.accepted) (hn : s'.q.nextVurb = s.q.nextVurb)
    (hlinked : ∀ u ∈ s'.q.urbList, u ∈ s.q.urbList ∧
      (s'.q.urbs u).hcpriv = (s.q.urbs u).hcpriv ∧
      (s'.q.vurbs (s.enqueueOf u)).map BceVhciUrb.urb =
        (s.q.vurbs (s.enqueueOf u)).map BceVhciUrb.urb)
    (hfreed : ∀ u ∈ s'.q.givebackUrbList ++ s'.popped, s'.q.vurbs (s.enqueueOf u) = none)
    (hctx : ∃ b, LockOk s'.lock b ∧ WorkerOwns s'.q s'.worker b)
    (hres : s'.resuming.Nodup ∧ ∀ u ∈ s'.resuming, u ∈ s'.q.urbList) : Owned s' where
  places := by
    have hperm : (s'.held.map s.enqueueOf ++ (s.givenBack ++ gone.map s.enqueueOf)).Perm
        ((s'.held ++ gone).map s.enqueueOf ++ s.givenBack) := by
      rw [List.map_append, List.append_assoc]
      exact List.Perm.append_left _ List.perm_append_comm
    rw [henq, hg, ha]
    exact (hperm.trans ((hheld.map _).append_right _)).trans h.places
  distinct := ha ▸ h.distinct
  old := by
    rw [ha, hn]
    exact h.old
  linked := by
    intro u hu
    obtain ⟨hu', hp, hv⟩ := hlinked u hu
    obtain ⟨v, hhas⟩ := h.linked u hu'
    rw [hhas.vurb, Option.map_some, hhas.urb_eq, Option.map_eq_some_iff] at hv
    obtain ⟨v', hv', hurb⟩ := hv
    rw [henq]
    exact ⟨v', hp.trans hhas.hcpriv, hv', hurb⟩
  freed := by
    intro u hu
    rw [henq]
    exact hfreed u hu
  contexts := hctx
  resuming := hres

/-- A step that leaves every URB where it is. -/
theorem Owned.of_same (h : Owned s) (hq : SameHeap s.q s'.q) (hp : s'.popped = s.popped)
    (ha : s'.accepted = s.accepted) (hg : s'.givenBack = s.givenBack)
    (hw : Endpoint.workHeld s'.worker = Endpoint.workHeld s.worker)
    (hctx : ∃ b, LockOk s'.lock b ∧ WorkerOwns s.q s'.worker b)
    (hres : s'.resuming.Nodup ∧ ∀ u ∈ s'.resuming, u ∈ s.q.urbList) : Owned s' := by
  obtain ⟨b, hl, hworker⟩ := hctx
  refine h.of_moved [] ?_ (funext hq.enqueue) (by simpa using hg) ha hq.nextVurb ?_ ?_
    ⟨b, hl, hworker.congr fun u _ => ⟨hq.enqueue u, hq.vurbs _⟩⟩
    ⟨hres.1, fun u hu => hq.urbList ▸ hres.2 u hu⟩
  · unfold Endpoint.held
    rw [hq.urbList, hq.givebackUrbList, hp, hw, List.append_nil]
  · intro u hu
    exact ⟨hq.urbList ▸ hu, hq.hcpriv u, hq.vurbs _⟩
  · intro u hu
    rw [hq.givebackUrbList, hp] at hu
    exact hq.vurbs_eq_none.mpr (h.freed u hu)

/-- Taking a linked URB off the list and putting it elsewhere moves it among the
places the driver has it in. -/
theorem perm_of_erase {l l' r : List Nat} {u : Nat} (hu : u ∈ l) :
    (l.erase u ++ (l' ++ [u]) ++ r).Perm (l ++ l' ++ r) := by
  refine List.perm_iff_count.mpr fun x => ?_
  have hcount := (List.perm_cons_erase hu).count_eq x
  simp only [List.count_append, List.count_cons, List.count_nil] at hcount ⊢
  omega

namespace Owned

/-- A URB is on the list once. -/
theorem urbList_nodup (h : Owned s) : s.q.urbList.Nodup := by
  have hnodup := h.held_nodup
  unfold Endpoint.held at hnodup
  rw [List.append_assoc, List.append_assoc] at hnodup
  exact List.Nodup.of_append_left hnodup

/-- A URB that is linked is nowhere else. -/
theorem off_list (h : Owned s) {u u' : Nat} (hu : u ∈ s.q.urbList)
    (hu' : u' ∈ s.q.givebackUrbList ++ s.popped ++ Endpoint.workHeld s.worker) :
    u' ∈ s.held ∧ u' ≠ u := by
  have hnodup := h.held_nodup
  unfold Endpoint.held at hnodup ⊢
  rw [List.append_assoc, List.append_assoc] at hnodup ⊢
  rw [List.append_assoc] at hu'
  refine ⟨List.mem_append_right _ hu', ?_⟩
  rintro rfl
  exact List.disjoint_of_nodup_append hnodup hu hu'

end Owned

/-- A step that completes the linked URB at `u`. -/
theorem Owned.of_ended (h : Owned s) {u urb : Nat} {v : BceVhciUrb} (hu : u ∈ s.q.urbList)
    (hhas : s.q.Has u urb v) (hq : Ended s.q urb u s'.q) (hp : s'.popped = s.popped)
    (ha : s'.accepted = s.accepted) (hg : s'.givenBack = s.givenBack)
    (hw : s'.worker = s.worker) (hctx : ∃ b, LockOk s'.lock b ∧ WorkerOwns s.q s'.worker b)
    (hres : s'.resuming.Nodup ∧ ∀ u' ∈ s'.resuming, u' ∈ s.q.urbList ∧ u' ≠ u) : Owned s' := by
  have hurb : urb = s.enqueueOf u := h.urb_eq hu hhas
  -- the other places are about other enqueues
  have hother : ∀ u' ∈ s.held, u' ≠ u → s.enqueueOf u' ≠ urb := by
    intro u' hu' hne heq
    exact hne (h.enqueue_inj hu' (Endpoint.mem_held.mpr (.inl hu)) (heq.trans hurb))
  obtain ⟨b, hl, hworker⟩ := hctx
  refine h.of_moved [] ?_ (funext hq.enqueue) (by simpa using hg) ha hq.nextVurb ?_ ?_
    ⟨b, hl, hworker.congr fun u' hu' => ?_⟩ ⟨hres.1, fun u' hu' => ?_⟩
  · unfold Endpoint.held
    rw [hq.urbList, hq.givebackUrbList, hp, hw, List.append_nil, List.append_assoc,
      List.append_assoc (_ ++ _)]
    exact perm_of_erase hu
  · intro u' hu'
    rw [hq.urbList] at hu'
    have hne : u' ≠ u := by
      rintro rfl
      exact h.urbList_nodup.not_mem_erase hu'
    have hlinked := List.mem_of_mem_erase hu'
    exact ⟨hlinked, hq.hcpriv u' hne,
      hq.vurbs _ (hother u' (Endpoint.mem_held.mpr (.inl hlinked)) hne)⟩
  · intro u' hu'
    rw [hq.givebackUrbList, hp, List.append_assoc, List.mem_append, List.singleton_append,
      List.mem_cons] at hu'
    by_cases hne : u' = u
    · subst hne
      rw [← hurb]
      exact hq.freed
    · have hmem : u' ∈ s.q.givebackUrbList ++ s.popped := by
        rw [List.mem_append]
        rcases hu' with hu' | hu' | hu'
        · exact .inl hu'
        · exact absurd hu' hne
        · exact .inr hu'
      have hv := hq.vurbs _ (hother u' (h.off_list hu (List.mem_append_left _ hmem)).1 hne)
      rw [h.freed u' hmem, Option.map_none, Option.map_eq_none_iff] at hv
      exact hv
  · rw [hw] at hu'
    obtain ⟨hmem, hne⟩ := h.off_list hu (List.mem_append_right _ hu')
    exact ⟨hq.enqueue u', hq.vurbs _ (hother u' hmem hne)⟩
  · obtain ⟨hlinked, hne⟩ := hres.2 u' hu'
    rw [hq.urbList]
    exact (List.mem_erase_of_ne hne).mpr hlinked

/-- The rest of a program is no resume loop. -/
theorem LockOk.tail_ne_resume {op : LockOp} {ops ops' : List LockOp} {b : Bool} {us : List Nat}
    (h : LockOk (op :: ops) b) : ops ≠ .resume us :: ops' := by
  cases h with
  | plain h =>
    rintro rfl
    exact h (.resume us) (by simp)
  | resume => simp
  | deliver => simp
  | back => simp

section LockHolder

variable {op : LockOp} {ops : List LockOp}

/-- A round on the head of the list, after which the loop goes on or is over. -/
theorem Owned.of_round (h : Owned s) (hlock : s.lock = op :: ops) (hback : op ≠ .back)
    (hresume : ∀ us, op ≠ .resume us) (more : Bool) (heff : HeadHeap s.q q') :
    Owned { s with q := q', lock := if more then op :: ops else ops } := by
  obtain ⟨b, hl, hw⟩ := h.contexts
  rw [hlock] at hl
  have hctx : ∃ b, LockOk (if more then op :: ops else ops) b ∧ WorkerOwns s.q s.worker b := by
    cases more with
    | true => exact ⟨b, hl, hw⟩
    | false => exact ⟨b, hl.tail hback, hw⟩
  have hres : ∀ us ops', (if more then op :: ops else ops) ≠ .resume us :: ops' := by
    intro us ops'
    cases more with
    | true => exact fun heq => hresume us (List.cons.inj heq).1
    | false => exact hl.tail_ne_resume
  have hres' : ({ s with q := q', lock := if more then op :: ops else ops } : Endpoint).resuming =
      [] := by
    unfold Endpoint.resuming
    dsimp only
    split
    · exact absurd ‹_› (hres _ _)
    · rfl
  rcases heff with heff | ⟨u, urb, v, hhead, heff⟩
  · exact h.of_same heff rfl rfl rfl rfl hctx (by rw [hres']; simp)
  · obtain ⟨us, hus⟩ := hhead.first
    exact h.of_ended (hus ▸ List.mem_cons_self) hhead.toHas heff rfl rfl rfl rfl hctx
      (by rw [hres']; simp)

end LockHolder

end Steps

end BceDriver
