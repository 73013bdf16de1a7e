import BceDriver.Vhci.InFlight

/-!
# What a pause leaves and a resume restarts

A pause flushes every element in flight; a resume submits again for the URBs
whose state says so. `Waiting` is a URB in a state only a completion of its own
element can end.

- `Flushed`: what holds from the pause on, whatever completions are processed and
  whichever URB is cancelled (`Interlude`).
- `Resuming`: what holds while the resume loop runs.
- `waiting_urbs_restarted_iff`: after the resume every waiting URB has an element
  in flight exactly when none of them waited for its setup packet.
-/

namespace BceDriver

open FaultState

/-! ## Having an element in flight -/

/-- An element of the enqueue is in flight. -/
def InFlight (sqs : DmaDataDirection → Option TransferSq) (urb : Nat) : Prop :=
  ∃ d t, sqs d = some t ∧ ∃ e ∈ t.inflight, e.owner = urb

/-- The URB waits for a completion, and one can come. -/
def Awaited (sqs : DmaDataDirection → Option TransferSq) (urb : Nat) (v : BceVhciUrb) : Prop :=
  v.state = .controlWaitingForSetupCompletion ∨ v.state = .waitingForCompletion → InFlight sqs urb

section InFlight

variable {P : DmaDataDirection → TransferElement → Prop} {q q' : BceVhciTransferQueue}
  {d : DmaDataDirection} {t t' : TransferSq} {urb urb' : Nat} {v : BceVhciUrb}

theorem InFlight.adds (h : InFlight q.sqs urb) (hadds : Adds P q q') : InFlight q'.sqs urb := by
  obtain ⟨d, t, ht, e, he, hurb⟩ := h
  obtain ⟨t', es, ht', hadd, -⟩ := hadds.some ht
  exact ⟨d, t', ht', e, hadd.inflight ▸ List.mem_append_left _ he, hurb⟩

/-- What one URB submits is not another's. -/
theorem InFlight.of_adds (h : InFlight q'.sqs urb') (hadds : Adds (OwnedBy urb) q q')
    (hne : urb' ≠ urb) : InFlight q.sqs urb' := by
  obtain ⟨d, t', ht', e, he, hurb⟩ := h
  cases ht : q.sqs d with
  | none => simp [hadds.none_iff.mpr ht] at ht'
  | some t =>
    obtain ⟨t₁, es, ht₁, hadd, hes⟩ := hadds.some ht
    obtain rfl := Option.some.inj (ht'.symm.trans ht₁)
    rw [hadd.inflight] at he
    rcases List.mem_append.mp he with he | he
    · exact ⟨d, t, ht, e, he, hurb⟩
    · exact absurd (hurb.symm.trans (hes e he)) hne

/-- Replacing a queue by one with no more in flight. -/
theorem InFlight.of_setSq (h : InFlight (q.setSq d t').sqs urb) (ht : q.sqs d = some t)
    (hsub : ∀ e ∈ t'.inflight, e ∈ t.inflight) : InFlight q.sqs urb := by
  obtain ⟨d', t₁, ht₁, e, he, hurb⟩ := h
  by_cases hd : d' = d
  · subst hd
    obtain rfl : t' = t₁ := by simpa using ht₁
    exact ⟨d', t, ht, e, hsub e he, hurb⟩
  · exact ⟨d', t₁, by simpa [hd] using ht₁, e, he, hurb⟩

theorem StartedIn.inFlight {timeout : Nat} (h : StartedIn timeout q urb v q') :
    InFlight q'.sqs urb := by
  obtain ⟨t, ht, -, hq'⟩ := h.slot
  rw [hq']
  exact ⟨.fromDevice, t.put (inElement q urb v), by simp, inElement q urb v, by simp, rfl⟩

theorem DeviceEffect.inflight_sub (h : DeviceEffect t t') : ∀ e ∈ t'.inflight, e ∈ t.inflight := by
  intro e he
  cases h with
  | complete c hin => exact hin ▸ List.mem_cons_of_mem _ he
  | abort k => exact List.mem_of_mem_drop he
  | accept => exact he

end InFlight

/-! ## From the pause on -/

section Evq

variable {q q' : BceVhciTransferQueue} {urb : Nat} {v : BceVhciUrb}

theorem settle_evq (q : BceVhciTransferQueue) (urb u receivedStatus : Nat) :
    (q.settle urb u receivedStatus).evq = q.evq := by
  unfold BceVhciTransferQueue.settle
  split
  · rfl
  · rfl

theorem StartedIn.evq {timeout : Nat} (h : StartedIn timeout q urb v q') : q'.evq = q.evq := by
  obtain ⟨t, -, -, hq'⟩ := h.slot
  rw [hq']
  rfl

theorem Waited.evq (h : Waited q q') : q'.evq = q.evq := by
  rw [h.frame]

/-- A completion leaves the deferred messages alone. -/
theorem CompletionEffect.evq {c : BceSqCompletionData} (h : CompletionEffect q urb v c q') :
    q'.evq = q.evq := by
  cases h with
  | doneSettled => exact settle_evq ..
  | settled => exact settle_evq ..
  | startedIn _ _ _ h => exact h.evq
  | startFailed _ _ _ h => exact h.waited.evq
  | _ => rfl

theorem CompletionRoundEffect.evq {d : DmaDataDirection} {more : Bool}
    (h : CompletionRoundEffect q d more q') : q'.evq = q.evq := by
  cases h with
  | idle => rfl
  | skipped => rfl
  | completed _ _ _ _ heff => exact heff.evq

theorem InitEffect.evq {r : Int} (h : InitEffect q urb v r q') : q'.evq = q.evq := by
  cases h with
  | control => rfl
  | out => rfl
  | startedIn _ _ h => exact h.evq
  | failed _ _ h => exact h.waited.evq

/-- So does a resume. -/
theorem ResumeEffect.evq (h : ResumeEffect q urb v q') : q'.evq = q.evq := by
  cases h with
  | unchanged => rfl
  | init _ h => exact h.evq
  | restarted _ h => exact h.evq
  | failed _ h => exact h.waited.evq

end Evq

/-- A URB that waits for its setup packet to be sent has nothing in flight. -/
def SetupLost (sqs : DmaDataDirection → Option TransferSq) (urb : Nat) (v : BceVhciUrb) : Prop :=
  v.state = .controlWaitingForSetupCompletion → ¬InFlight sqs urb

/-- What a pause leaves: nothing deferred, and no setup packet in flight. -/
structure Flushed (q : BceVhciTransferQueue) : Prop where
  live : q.Live
  nodup : q.urbList.Nodup
  evq : q.evq = []
  setup : EveryLinked SetupLost q

/-- What can happen between a pause and the resume: the device writes the
completions of what was flushed and they are accepted, completions are processed,
and a URB is removed. -/
inductive Interlude (q : BceVhciTransferQueue) : BceVhciTransferQueue → Prop where
  | device {d : DmaDataDirection} {t t' : TransferSq} : q.sqs d = some t → DeviceEffect t t' →
      Interlude q (q.setSq d t')
  | completion {d : DmaDataDirection} {q' : BceVhciTransferQueue} :
      (bceVhciTransferQueueCompletion d).run q = .ok (⟨⟩, q') → Interlude q q'
  | removed {u : Nat} {status r : Int} {q' : BceVhciTransferQueue} :
      (bceVhciUrbRemove u status).run q = .ok (r, q') → Interlude q q'

section Interlude

variable {q q' : BceVhciTransferQueue} {urb : Nat} {v : BceVhciUrb}

/-- A completion starts the data of a URB at most, never its setup packet. -/
theorem CompletionEffect.setupLost {c : BceSqCompletionData} (hv : q.vurbs urb = some v)
    (h : CompletionEffect q urb v c q') (hlost : SetupLost q.sqs urb v) :
    LeavesUrb (SetupLost q'.sqs urb) urb q q' := by
  have hnot : ∀ {v' : BceVhciUrb}, v'.state ≠ .controlWaitingForSetupCompletion →
      SetupLost q'.sqs urb v' := fun hne hs => absurd hs hne
  cases h with
  | ignored => exact .kept hv rfl hlost
  | progress hs => exact .stored rfl (hnot (by simp [hs]))
  | dataDone => exact .stored rfl (hnot (by simp))
  | done => exact .freed rfl
  | doneSettled => exact .freed (settle_vurbs ..)
  | settled => exact .freed (settle_vurbs ..)
  | startedIn _ _ _ h => exact .startedIn h (hnot (by simp))
  | startFailed _ _ _ h => exact .startFailed h ..
  | startedOut =>
    refine .stored rfl (hnot ?_)
    dsimp only [outStartState]
    split
    · decide
    · decide

theorem Flushed.of_sqs (h : Flushed q) (hlist : q'.urbList = q.urbList) (hurbs : q'.urbs = q.urbs)
    (hvurbs : q'.vurbs = q.vurbs) (hevq : q'.evq = q.evq)
    (hsqs : ∀ urb, InFlight q'.sqs urb → InFlight q.sqs urb) : Flushed q' where
  live := by
    intro u hu
    obtain ⟨urb, v, hhas⟩ := h.live u (hlist ▸ hu)
    exact ⟨urb, v, hurbs ▸ hhas.hcpriv, hvurbs ▸ hhas.vurb, hhas.urb_eq⟩
  nodup := hlist ▸ h.nodup
  evq := hevq.trans h.evq
  setup := h.setup.of_sqs hlist hurbs hvurbs fun urb _ hlost hs hin => hlost hs (hsqs urb hin)

theorem Flushed.completionRound {d : DmaDataDirection} {more : Bool} (h : Flushed q)
    (heff : CompletionRoundEffect q d more q') : Flushed q' := by
  have hconsume : ∀ {t : TransferSq} (sq : BceQueueSq), q.sqs d = some t →
      Flushed (q.consume d t sq) := fun sq ht =>
    h.of_sqs rfl rfl rfl rfl fun _ hin => hin.of_setSq ht fun _ he => he
  cases heff with
  | idle => exact h
  | skipped ht => exact hconsume _ ht
  | @completed t t' c sq u urb v q₁ ht hnext hstatus hhead heff ht' =>
    have hcons := hconsume sq ht
    have hhas : (q.consume d t sq).Has u urb v := (hhead.consume d t sq).toHas
    have hmem : u ∈ q.urbList := Head.mem hhead
    obtain ⟨hlive₁, hnodup₁⟩ := live_of_heap hhas (heff.heap hhas.vurb) hcons.live hcons.nodup
    obtain ⟨x, hx, hP⟩ := heff.setupLost hhas.vurb (hcons.setup u hmem urb v hhas)
    -- only the first URB changes, and no URB gets a setup packet in flight
    have hflushed : Flushed q₁ := by
      refine ⟨hlive₁, hnodup₁, heff.evq.trans hcons.evq, ?_⟩
      refine hcons.setup.touches (.of_heap hcons.nodup (heff.heap hhas.vurb) hx) ?_ hP
      exact fun urb' v' hne hlost hs hin => hlost hs (hin.of_adds heff.adds hne)
    exact hflushed.of_sqs rfl rfl rfl rfl fun _ hin => hin.of_setSq ht' fun _ he => he

/-- Without deferred messages there is nothing to deliver. -/
theorem deliverRound_nil (hlive : q.Live) (hevq : q.evq = []) {E : Fault → Prop} :
    wp bceVhciTransferQueueDeliverPendingRound E (fun _ q' => q' = q) q := by
  have hidle : DeliverIdle q := fun v _ msg hmsg => by simp [hevq] at hmsg
  exact wp_imp (deliverRound_spec hlive
    fun v hv msg hmsg hacc htr => absurd ⟨hacc, htr⟩ (hidle v hv msg hmsg).2)
    fun more q' heff => heff.of_idle hidle

theorem deliverPending_nil (hlive : q.Live) (hevq : q.evq = []) {E : Fault → Prop} :
    wp bceVhciTransferQueueDeliverPending E (fun _ q' => q' = q) q := by
  refine wp_deliverPending (I := (· = q)) (fun q' hq' => ?_) rfl
  rw [hq']
  exact deliverRound_nil hlive hevq

/-- A URB is off the list, and only it and its `bce_vhci_urb` changed. -/
theorem Flushed.off {u : Nat} (h : Flushed q) (hlist : q'.urbList = q.urbList.erase u)
    (hurbs : ∀ u', u' ≠ u → (q'.urbs u').hcpriv = (q.urbs u').hcpriv)
    (hvurbs : ∀ urb v, v.urb ≠ u → (q'.vurbs urb = some v ↔ q.vurbs urb = some v))
    (hevq : q'.evq = q.evq) (hsqs : q'.sqs = q.sqs) : Flushed q' := by
  -- the URB is linked once, so it is off the list
  have hmem : ∀ u' ∈ q'.urbList, u' ∈ q.urbList ∧ u' ≠ u := by
    intro u' hu'
    rw [hlist] at hu'
    refine ⟨List.mem_of_mem_erase hu', ?_⟩
    rintro rfl
    exact h.nodup.not_mem_erase hu'
  refine ⟨fun u' hu' => ?_, hlist ▸ h.nodup.erase u, hevq.trans h.evq, fun u' hu' urb v hhas => ?_⟩
  · obtain ⟨hu, hne⟩ := hmem u' hu'
    obtain ⟨urb, v, hhas⟩ := h.live u' hu
    exact ⟨urb, v, (hurbs u' hne).trans hhas.hcpriv,
      (hvurbs urb v (hhas.urb_eq ▸ hne)).mpr hhas.vurb, hhas.urb_eq⟩
  · obtain ⟨hu, hne⟩ := hmem u' hu'
    rw [hsqs]
    exact h.setup u' hu urb v ⟨(hurbs u' hne).symm.trans hhas.hcpriv,
      (hvurbs urb v (hhas.urb_eq ▸ hne)).mp hhas.vurb, hhas.urb_eq⟩

theorem Flushed.remove (h : Flushed q) (u : Nat) (status : Int) :
    wp (bceVhciUrbRemove u status) (fun _ => True) (fun _ q' => Flushed q') q := by
  unfold bceVhciUrbRemove
  rw [wp_bind]
  refine wp_imp (removeBody_spec q u status) fun r q₁ heff => ?_
  cases heff with
  | refused hr =>
    rw [if_pos hr]
    exact wp_pure.mpr h
  | removed hu =>
    obtain ⟨urb, v, hhas⟩ := h.live u hu
    rw [if_neg (not_not_intro rfl), hhas.hcpriv]
    generalize hq₁ : ({ q.setUrb u { q.urbs u with unlinked := status } with
      urbList := q.urbList.erase u } : BceVhciTransferQueue) = q₁
    have hvurbs : q₁.vurbs = q.vurbs := hq₁ ▸ rfl
    have hurbs : ∀ u', u' ≠ u → (q₁.urbs u').hcpriv = (q.urbs u').hcpriv := by
      intro u' hne
      rw [← hq₁]
      simp [hne]
    -- `list_del` comes first, and `kfree` after the delivery
    have h₁ : Flushed q₁ :=
      h.off (hq₁ ▸ rfl) hurbs (fun _ _ _ => by rw [hvurbs]) (hq₁ ▸ rfl) (hq₁ ▸ rfl)
    simp only [wp_bind]
    refine wp_imp (deliverPending_nil h₁.live h₁.evq) fun _ q₂ hq₂ => ?_
    subst hq₂
    rw [wp_kfreeVurb, hvurbs, hhas.vurb]
    simp only [wp_modify, wp_pure]
    refine h.off (u := u) (by rw [← hq₁]; rfl) (fun u' hne => ?_) (fun urb' v' hne => ?_)
      (by rw [← hq₁]; rfl) (by rw [← hq₁]; rfl)
    · simp only [BceVhciTransferQueue.setUrb_urbs, Function.update_of_ne hne]
      exact hurbs u' hne
    · by_cases hurb : urb' = urb
      · subst hurb
        simp only [BceVhciTransferQueue.setUrb_vurbs, Function.update_self, hhas.vurb]
        constructor
        · intro h
          cases h
        · intro h
          obtain rfl := Option.some.inj h
          exact absurd hhas.urb_eq hne
      · simp [hurb]

theorem Flushed.interlude (h : Flushed q) (hstep : Interlude q q') : Flushed q' := by
  cases hstep with
  | device ht hdev => exact h.of_sqs rfl rfl rfl rfl fun _ hin => hin.of_setSq ht hdev.inflight_sub
  | @completion d q' hrun =>
    have hspec : wp (bceVhciTransferQueueCompletion d) (fun _ => True) (fun _ q' => Flushed q') q :=
      wp_completion trivial trivial
        (fun q hq => wp_imp (completionRound_spec hq.live d (fun _ => trivial)
          fun _ _ _ _ => trivial)
          fun _ _ heff => hq.completionRound heff)
        (fun q hq => wp_imp (deliverRound_nil hq.live hq.evq) fun _ _ heq => heq ▸ hq) h
    exact wp_ok hspec hrun
  | removed hrun => exact wp_ok (h.remove _ _) hrun

theorem Flushed.interludes (h : Flushed q) (hsteps : Relation.ReflTransGen Interlude q q') :
    Flushed q' := by
  -- by induction on the steps between the pause and the resume
  induction hsteps with
  | refl => exact h
  | tail _ hstep ih => exact ih.interlude hstep

/-- A flush that works leaves nothing in flight on its queue. -/
theorem flush_spec {E : Fault → Prop} {d : DmaDataDirection} {aborted : Nat}
    (h : ∀ t ∈ q.sqs d, t.inflight.length ≤ aborted) :
    wp (bceCmdFlushMemoryQueue d aborted) E
      (fun _ q' => q' = { q with sqs := q'.sqs } ∧ (∀ d', d' ≠ d → q'.sqs d' = q.sqs d') ∧
        ∀ t ∈ q'.sqs d, t.inflight = []) q := by
  rw [wp_flush]
  cases ht : q.sqs d with
  | none =>
    refine ⟨rfl, fun _ _ => rfl, fun t ht' => ?_⟩
    simp at ht'
  | some t =>
    refine ⟨rfl, fun d' hd => ?_, fun t' ht' => ?_⟩
    · rw [BceVhciTransferQueue.setSq_sqs, Function.update_of_ne hd]
    · rw [BceVhciTransferQueue.setSq_sqs, Function.update_self] at ht'
      obtain rfl := Option.some.inj ht'
      exact List.drop_eq_nil_iff.mpr (h t ht)

/-- **The pause.** Once it succeeded, with everything in flight flushed, the queue
is flushed. -/
theorem Flushed.of_pause {reply : CommandOutcome} {abortedIn abortedOut : Nat} (hlive : q.Live)
    (hnodup : q.urbList.Nodup)
    (hin : ∀ t ∈ q.sqs .fromDevice, t.inflight.length ≤ abortedIn)
    (hout : ∀ t ∈ q.sqs .toDevice, t.inflight.length ≤ abortedOut) :
    wp (bceVhciTransferQueuePause reply abortedIn abortedOut) (fun _ => False)
      (fun r q' => r = 0 → Flushed q') q := by
  unfold bceVhciTransferQueuePause bceVhciTransferQueueDeactivate bceVhciTransferQueueRemovePending
  rw [wp_bind, wp_modify, wp_bind, wp_modify, wp_bind]
  refine wp_imp pauseCommand_spec fun r q₁ hq₁ => ?_
  obtain ⟨state, hstate⟩ :=
    ({ q with active := false, evq := [] } : BceVhciTransferQueue).replied_eq reply
  rw [hq₁.1, hstate, wp_ite]
  refine ⟨fun hne => wp_pure.mpr fun h => absurd h hne, fun _ => ?_⟩
  rw [wp_bind]
  refine wp_imp (flush_spec hin) fun _ q₂ hq₂ => ?_
  obtain ⟨hframe₂, hother₂, hin₂⟩ := hq₂
  rw [wp_bind]
  refine wp_imp (flush_spec fun t ht => ?_) fun _ q₃ hq₃ => wp_pure.mpr fun _ => ?_
  · rw [hother₂ _ (by decide)] at ht
    exact hout t ht
  obtain ⟨hframe₃, hother₃, hout₃⟩ := hq₃
  have hnone : ∀ urb, ¬InFlight q₃.sqs urb := by
    rintro urb ⟨d, t, ht, e, he, -⟩
    cases d with
    | toDevice => simp [hout₃ t ht] at he
    | fromDevice =>
      rw [hother₃ _ (by decide)] at ht
      simp [hin₂ t ht] at he
  have hheap : SameHeap q q₃ := by
    rw [hframe₃, hframe₂]
    exact ⟨rfl, rfl, fun _ => rfl, fun _ => rfl, fun _ => rfl, rfl⟩
  refine ⟨hheap.live hlive, hheap.urbList ▸ hnodup, ?_, fun _ _ urb _ _ _ => hnone urb⟩
  rw [hframe₃, hframe₂]

end Interlude

/-! ## The resume -/

/-- The resume loop is about to visit the URBs of `us`. -/
structure Resuming (us : List Nat) (q : BceVhciTransferQueue) : Prop where
  live : q.Live
  nodup : q.urbList.Nodup
  evq : q.evq = []
  linked : ∀ u ∈ us, u ∈ q.urbList
  usNodup : us.Nodup

/-- A slot of `msg_asynchronous` and one of `sq_in` for each of `n` URBs. -/
def FreeSlots (n : Nat) (q : BceVhciTransferQueue) : Prop :=
  (n : Int) ≤ q.msgAsynchronous.sq.availableCommands ∧
    ∀ t ∈ q.sqs .fromDevice, (n : Int) ≤ t.sq.availableCommands

instance (n : Nat) (q : BceVhciTransferQueue) : Decidable (FreeSlots n q) :=
  inferInstanceAs (Decidable (_ ∧ ∀ t ∈ q.sqs .fromDevice, _))

section Resume

variable {q q' : BceVhciTransferQueue} {us : List Nat} {u urb n : Nat} {v : BceVhciUrb}

theorem FreeSlots.not_failed (h : FreeSlots (n + 1) q) : ¬StartFailed 0 q q' := by
  rintro ⟨hasync | ⟨t, ht, hle⟩, -⟩
  · exact hasync (asyncReservation_of_pos (by have := h.1; omega) 0)
  · have := h.2 t ht
    omega

theorem FreeSlots.startedIn (h : FreeSlots (n + 1) q) (hs : StartedIn 0 q urb v q') :
    FreeSlots n q' := by
  obtain ⟨t, ht, -, hq'⟩ := hs.slot
  have hasync := hs.async (by have := h.1; omega)
  refine ⟨by have := h.1; omega, fun t' ht' => ?_⟩
  have hput : t' = t.put (inElement q urb v) := by
    rw [hq'] at ht'
    simpa using ht'.symm
  have havail : t'.sq.availableCommands = t.sq.availableCommands - 1 := by
    rw [hput]
    rfl
  have := h.2 t ht
  omega

theorem FreeSlots.of_le {m : Nat} (h : FreeSlots m q) (hle : n ≤ m) : FreeSlots n q :=
  ⟨by have := h.1; omega, fun t ht => by have := h.2 t ht; omega⟩

/-- Restarting a URB uses one slot of each queue at most. -/
theorem FreeSlots.resume (h : FreeSlots (n + 1) q) (heff : ResumeEffect q urb v q') :
    FreeSlots n q' := by
  have hle := h.of_le (Nat.le_succ n)
  cases heff with
  | unchanged => exact hle
  | init _ hi =>
    cases hi with
    | control => exact hle
    | out => exact hle
    | startedIn _ _ hs => exact h.startedIn hs
    | failed _ _ hf => exact absurd hf h.not_failed
  | restarted _ hs => exact h.startedIn hs
  | failed _ hf => exact absurd hf h.not_failed

theorem outStartState_ne (q : BceVhciTransferQueue) (v : BceVhciUrb) :
    outStartState q v ≠ .controlWaitingForSetupCompletion ∧
      outStartState q v ≠ .waitingForCompletion := by
  unfold outStartState
  split
  · decide
  · decide

/-- Starting or restarting a URB writes only its own `bce_vhci_urb`. -/
theorem InitEffect.vurbs {r : Int} (hv : q.vurbs urb = some v) (h : InitEffect q urb v r q') :
    ∃ x, q'.vurbs = Function.update q.vurbs urb x := by
  cases h with
  | control => exact ⟨_, rfl⟩
  | out => exact ⟨_, rfl⟩
  | startedIn _ _ h => exact ⟨_, h.vurbs⟩
  | failed _ _ h => exact ⟨some v, by rw [h.waited.vurbs, ← hv, Function.update_eq_self]⟩

theorem ResumeEffect.vurbs (hv : q.vurbs urb = some v) (h : ResumeEffect q urb v q') :
    ∃ x, q'.vurbs = Function.update q.vurbs urb x := by
  cases h with
  | unchanged => exact ⟨some v, by rw [← hv, Function.update_eq_self]⟩
  | init _ h => exact h.vurbs hv
  | restarted _ h => exact ⟨_, h.vurbs⟩
  | failed _ h => exact ⟨none, by rw [← h.waited.vurbs]; rfl⟩

/-- With free slots a URB that is restarted waits for an element in flight. -/
theorem ResumeEffect.awaited (hv : q.vurbs urb = some v) (h : ResumeEffect q urb v q')
    (hfree : FreeSlots (n + 1) q) (hstate : v.state ≠ .controlWaitingForSetupCompletion) :
    ∀ v' ∈ q'.vurbs urb,
      v'.state ≠ .controlWaitingForSetupCompletion ∧ Awaited q'.sqs urb v' := by
  -- in any other state the URB waits for nothing in flight
  have hidle : ∀ {v' : BceVhciUrb}, v'.state ≠ .controlWaitingForSetupCompletion →
      v'.state ≠ .waitingForCompletion → v'.state ≠ .controlWaitingForSetupCompletion ∧
        Awaited q'.sqs urb v' := fun hs hw => ⟨hs, fun h => absurd h (not_or.mpr ⟨hs, hw⟩)⟩
  have hstarted : StartedIn 0 q urb v q' → ∀ v' ∈ q'.vurbs urb,
      v'.state ≠ .controlWaitingForSetupCompletion ∧ Awaited q'.sqs urb v' := by
    intro hs v' hv'
    rw [hs.vurbs, Function.update_self] at hv'
    obtain rfl := Option.some.inj hv'
    exact ⟨by simp, fun _ => hs.inFlight⟩
  intro v' hv'
  cases h with
  | unchanged _ hw =>
    obtain rfl := Option.some.inj (hv.symm.trans hv')
    exact hidle hstate hw
  | init _ hi =>
    cases hi with
    | control =>
      obtain rfl : { v with state := .controlWaitingForSetupRequest } = v' := by simpa using hv'
      exact hidle (by simp) (by simp)
    | out =>
      obtain rfl : { v with state := outStartState q v } = v' := by simpa using hv'
      exact hidle (outStartState_ne q v).1 (outStartState_ne q v).2
    | startedIn _ _ hs => exact hstarted hs v' hv'
    | failed _ _ hf => exact absurd hf hfree.not_failed
  | restarted _ hs => exact hstarted hs v' hv'
  | failed _ hf => exact absurd hf hfree.not_failed

/-- The other URBs stay linked. -/
theorem ResumeEffect.linked (hhas : q.Has u urb v) (heff : ResumeEffect q urb v q') {u' : Nat}
    (hmem : u' ∈ q.urbList) (hne : u' ≠ u) : u' ∈ q'.urbList := by
  rcases heff.heap hhas.vurb with hheap | hheap
  · rwa [hheap.urbList]
  · rw [hheap.urbList, hhas.urb_eq]
    exact (List.mem_erase_of_ne hne).mpr hmem

/-- URBs have private structures of their own. -/
theorem BceVhciTransferQueue.Has.urb_ne {u₀ urb₀ : Nat} {v₀ : BceVhciUrb} (h : q.Has u₀ urb₀ v₀)
    (hhas : q.Has u urb v) (hne : u₀ ≠ u) : urb₀ ≠ urb := by
  rintro rfl
  have hv := Option.some.inj (hhas.vurb.symm.trans h.vurb)
  exact hne (hhas.urb_eq ▸ hv ▸ h.urb_eq.symm)

/-- A visit leaves the other URBs alone. -/
theorem ResumeEffect.other (hhas : q.Has u urb v) (heff : ResumeEffect q urb v q') {u₀ urb₀ : Nat}
    {v₀ : BceVhciUrb} (h : q.Has u₀ urb₀ v₀) (hne : u₀ ≠ u) : q'.Has u₀ urb₀ v₀ := by
  obtain ⟨x, hx⟩ := heff.vurbs hhas.vurb
  have hvurb : q'.vurbs urb₀ = some v₀ := by
    rw [hx, Function.update_of_ne (h.urb_ne hhas hne)]
    exact h.vurb
  rcases heff.heap hhas.vurb with hheap | hheap
  · exact ⟨(hheap.hcpriv u₀).trans h.hcpriv, hvurb, h.urb_eq⟩
  · rw [hhas.urb_eq] at hheap
    exact ⟨(hheap.hcpriv u₀ hne).trans h.hcpriv, hvurb, h.urb_eq⟩

/-- A visit does nothing to a URB that waits for something else than its data. -/
theorem ResumeEffect.same (h : ResumeEffect q urb v q') (hpaused : v.state ≠ .initPaused)
    (hwaiting : v.state ≠ .waitingForCompletion) : q' = q := by
  cases h with
  | unchanged => rfl
  | init hs => exact absurd hs hpaused
  | restarted hs | failed hs => exact absurd hs hwaiting

theorem Resuming.round (h : Resuming (u :: us) q) (hhas : q.Has u urb v)
    (heff : ResumeEffect q urb v q') : Resuming us q' := by
  obtain ⟨hlive, hnodup⟩ := live_of_heap hhas (heff.heap hhas.vurb) h.live h.nodup
  obtain ⟨hu, hus⟩ := List.nodup_cons.mp h.usNodup
  refine ⟨hlive, hnodup, heff.evq.trans h.evq, fun u' hu' => ?_, hus⟩
  refine heff.linked hhas (h.linked u' (List.mem_cons_of_mem _ hu')) ?_
  rintro rfl
  exact hu hu'

/-- The URBs the loop has visited wait for an element in flight, and none of the
linked ones waits for its setup packet. -/
def Restarted (us : List Nat) (q : BceVhciTransferQueue) : Prop :=
  ∀ u ∈ q.urbList, ∀ urb v, q.Has u urb v →
    v.state ≠ .controlWaitingForSetupCompletion ∧ (u ∉ us → Awaited q.sqs urb v)

theorem Restarted.round (h : Restarted (u :: us) q) (hr : Resuming (u :: us) q)
    (hhas : q.Has u urb v) (hfree : FreeSlots (n + 1) q) (heff : ResumeEffect q urb v q') :
    Restarted us q' := by
  obtain ⟨x, hx⟩ := heff.vurbs hhas.vurb
  have htouch : Touches q urb x q' := .of_heap hr.nodup (heff.heap hhas.vurb) hx
  have hu : u ∈ q.urbList := hr.linked u List.mem_cons_self
  intro u' hu' urb' v' hhas'
  have hmem := htouch.urbList u' hu'
  by_cases hurb : urb' = urb
  · subst hurb
    have hown := heff.awaited hhas.vurb hfree (h u hu urb' v hhas).1 v' hhas'.vurb
    exact ⟨hown.1, fun _ => hown.2⟩
  · -- another URB is as it was, and elements are only added
    have hold : q.Has u' urb' v' := by
      refine ⟨(htouch.hcpriv u' hu').symm.trans hhas'.hcpriv, ?_, hhas'.urb_eq⟩
      have hv' := hhas'.vurb
      rwa [hx, Function.update_of_ne hurb] at hv'
    obtain ⟨hstate, hawaited⟩ := h u' hmem urb' v' hold
    refine ⟨hstate, fun hus => ?_⟩
    have hne : u' ≠ u := by
      rintro rfl
      exact hurb (Option.some.inj (hold.hcpriv.symm.trans hhas.hcpriv))
    have hout := hawaited fun hin => (List.mem_cons.mp hin).elim hne hus
    exact fun hwait => (hout hwait).adds heff.adds

/-- A URB that waits for its setup packet, with nothing in flight. -/
structure Stuck (q : BceVhciTransferQueue) (u urb : Nat) (v : BceVhciUrb) : Prop
    extends q.Has u urb v where
  linked : u ∈ q.urbList
  setup : v.state = .controlWaitingForSetupCompletion
  lost : ¬InFlight q.sqs urb

/-- No visit of the loop helps it. -/
theorem Stuck.round {u₀ urb₀ : Nat} {v₀ : BceVhciUrb} (h : Stuck q u₀ urb₀ v₀)
    (hhas : q.Has u urb v) (heff : ResumeEffect q urb v q') : Stuck q' u₀ urb₀ v₀ := by
  by_cases hu : u = u₀
  · subst hu
    obtain ⟨rfl, rfl⟩ := hhas.unique h.toHas
    have hsetup := h.setup
    obtain rfl := heff.same (by rw [hsetup]; decide) (by rw [hsetup]; decide)
    exact h
  · have hne := Ne.symm hu
    have hurb := h.toHas.urb_ne hhas hne
    have hlost : ¬InFlight q'.sqs urb₀ := fun hin => h.lost (hin.of_adds heff.adds hurb)
    exact ⟨heff.other hhas h.toHas hne, heff.linked hhas h.linked hne, h.setup, hlost⟩

/-- What the loop keeps holds once the queue is resumed. -/
theorem resume_keeps {I : List Nat → BceVhciTransferQueue → Prop} {reply : CommandOutcome}
    (hq : Flushed q) (hstart : ∀ state, I q.urbList { q with state := state, active := true })
    (hround : ∀ u us urb v q q', Resuming (u :: us) q → q.Has u urb v → ResumeEffect q urb v q' →
      I (u :: us) q → I us q') :
    wp (bceVhciTransferQueueResume reply) (fun _ => True) (fun r q' => r = 0 → I [] q') q := by
  refine wp_resume (I := fun us q => Resuming us q ∧ I us q) (fun state => ⟨?_, hstart state⟩) ?_ ?_
  · have hheap : SameHeap q { q with state := state, active := true } :=
      ⟨rfl, rfl, fun _ => rfl, fun _ => rfl, fun _ => rfl, rfl⟩
    exact ⟨hheap.live hq.live, hq.nodup, hq.evq, fun _ hu => hu, hq.nodup⟩
  · rintro u us q₁ ⟨hr, hI⟩
    obtain ⟨urb, v, hhas⟩ := hr.live u (hr.linked u List.mem_cons_self)
    exact wp_imp (resumeUrb_spec hhas fun _ _ => trivial)
      fun _ q₂ heff => ⟨hr.round hhas heff, hround u us urb v q₁ q₂ hr hhas heff hI⟩
  · -- the messages were dropped by the pause, so nothing is delivered
    rintro q₁ ⟨hr, hI⟩
    exact wp_imp (deliverPending_nil hr.live hr.evq) fun _ q₂ hq₂ => hq₂ ▸ hI

end Resume

/-- **What a pause and a resume leave.** Take any queue, a pause that succeeds and
flushes everything in flight, whatever completions are processed and URBs removed
then, and a resume that succeeds with free slots. Every linked URB that waits for
a completion has an element in flight again if and only if none waited for its
setup packet when the resume began. -/
theorem waiting_urbs_restarted_iff {q q₁ q₂ q₃ : BceVhciTransferQueue}
    {pauseReply resumeReply : CommandOutcome} {abortedIn abortedOut : Nat} (hlive : q.Live)
    (hnodup : q.urbList.Nodup)
    (hin : ∀ t ∈ q.sqs .fromDevice, t.inflight.length ≤ abortedIn)
    (hout : ∀ t ∈ q.sqs .toDevice, t.inflight.length ≤ abortedOut)
    (hpause : (bceVhciTransferQueuePause pauseReply abortedIn abortedOut).run q = .ok (0, q₁))
    (hinterlude : Relation.ReflTransGen Interlude q₁ q₂)
    (hfree : FreeSlots q₂.urbList.length q₂)
    (hresume : (bceVhciTransferQueueResume resumeReply).run q₂ = .ok (0, q₃)) :
    (∀ u ∈ q₃.urbList, ∀ urb v, q₃.Has u urb v → Awaited q₃.sqs urb v) ↔
      ∀ u ∈ q₂.urbList, ∀ urb v, q₂.Has u urb v →
        v.state ≠ .controlWaitingForSetupCompletion := by
  have hpaused : Flushed q₁ := wp_ok (Flushed.of_pause hlive hnodup hin hout) hpause rfl
  have hflushed : Flushed q₂ := hpaused.interludes hinterlude
  constructor
  · -- a URB that waits for its setup packet is left waiting by every visit
    intro hall u hu urb v hhas hsetup
    have hstuck : Stuck q₂ u urb v := ⟨hhas, hu, hsetup, hflushed.setup u hu urb v hhas hsetup⟩
    have hstuck₃ : Stuck q₃ u urb v := by
      refine wp_ok (resume_keeps (I := fun _ q => Stuck q u urb v) hflushed (fun state => ?_) ?_)
        hresume rfl
      · exact ⟨⟨hhas.hcpriv, hhas.vurb, hhas.urb_eq⟩, hu, hsetup, hstuck.lost⟩
      · exact fun u' us urb' v' q q' _ hhas' heff h => h.round hhas' heff
    exact hstuck₃.lost (hall u hstuck₃.linked urb v hstuck₃.toHas (.inl hsetup))
  · -- each visit uses one free slot at most
    intro hnone
    have hrestarted : Restarted [] q₃ := by
      refine (wp_ok (resume_keeps (I := fun us q => FreeSlots us.length q ∧ Restarted us q)
        hflushed (fun state => ⟨hfree, fun u hu urb v hhas => ⟨?_, fun h => absurd hu h⟩⟩) ?_)
        hresume rfl).2
      · exact hnone u hu urb v ⟨hhas.hcpriv, hhas.vurb, hhas.urb_eq⟩
      · rintro u us urb v q q' hr hhas heff ⟨hslots, hre⟩
        exact ⟨FreeSlots.resume hslots heff, hre.round hr hhas hslots heff⟩
    exact fun u hu urb v hhas => (hrestarted u hu urb v hhas).2 List.not_mem_nil

/-! ## Two pauses -/

/-- A pause that works, with `n` elements in flight. -/
def pauseWith (n : Nat) : TransferM Int :=
  bceVhciTransferQueuePause ⟨0, BCE_VHCI_ENDPOINT_PAUSED⟩ n n

/-- A resume that works. -/
def resumeWith : TransferM Int :=
  bceVhciTransferQueueResume ⟨0, BCE_VHCI_ENDPOINT_ACTIVE⟩

/-- The queue with the oldest completion of `d` accepted. -/
def acceptOn (d : DmaDataDirection) (q : BceVhciTransferQueue) : BceVhciTransferQueue :=
  match (q.sqs d).bind Endpoint.acceptCompletion with
  | some t => q.setSq d t
  | none => q

theorem Interlude.accept {d : DmaDataDirection} {q : BceVhciTransferQueue}
    (h : ((q.sqs d).bind Endpoint.acceptCompletion).isSome = true) :
    Interlude q (acceptOn d q) := by
  obtain ⟨t', ht'⟩ := Option.isSome_iff_exists.mp h
  obtain ⟨t, ht, hacc⟩ := Option.bind_eq_some_iff.mp ht'
  unfold acceptOn
  rw [ht']
  refine .device ht ?_
  unfold Endpoint.acceptCompletion at hacc
  split at hacc
  · next hposted =>
    obtain rfl := Option.some.inj hacc
    exact .accept hposted
  · cases hacc

/-- The queue once its completions of `d` are processed. -/
def processOn (d : DmaDataDirection) (q : BceVhciTransferQueue) : BceVhciTransferQueue :=
  final (bceVhciTransferQueueCompletion d) q

theorem Interlude.process {d : DmaDataDirection} {q : BceVhciTransferQueue}
    (h : returned (bceVhciTransferQueueCompletion d) q = some ⟨⟩) : Interlude q (processOn d q) :=
  .completion (run_eq_final h)

/-- Nothing the device wrote is left to process. -/
def Processed (q : BceVhciTransferQueue) : Prop :=
  ∀ d, ∀ t ∈ q.sqs d, t.posted = [] ∧ t.pending = []

/-- Two URBs that ask for data. -/
def twoUrbs : Endpoint :=
  endpointSystem.after (fun _ _ => True) [.enqueue 0 ⟨true, 4, 0, 0⟩ 0, .lockStep,
    .enqueue 1 ⟨true, 4, 0, 0⟩ 0, .lockStep] (.fresh 0x81)

def twoPaused : BceVhciTransferQueue := final (pauseWith 2) twoUrbs.q

def twoAccepted : BceVhciTransferQueue := acceptOn .fromDevice (acceptOn .fromDevice twoPaused)

def twoProcessed : BceVhciTransferQueue := processOn .fromDevice twoAccepted

/-- The first is cancelled. -/
def oneRemoved : BceVhciTransferQueue := final (bceVhciUrbRemove 0 (-104)) twoProcessed

def oneResumed : BceVhciTransferQueue := final resumeWith oneRemoved

/-- The second has its element in flight again. -/
theorem waiting_urbs_restarted_of_a_cancel :
    oneResumed.urbList = [1] ∧
      ∀ u ∈ oneResumed.urbList, ∀ urb v, oneResumed.Has u urb v → Awaited oneResumed.sqs urb v := by
  have howned : Owned twoUrbs :=
    reachable_owned (G := fun _ _ => True)
      (.after (.of_init (Endpoint.fresh_init 0x81)) (by decide +kernel))
  have hpause : (pauseWith 2).run twoUrbs.q = .ok (0, twoPaused) :=
    run_eq_final (by decide +kernel)
  have haccept₁ : Interlude twoPaused (acceptOn .fromDevice twoPaused) :=
    .accept (by decide +kernel)
  have haccept₂ : Interlude (acceptOn .fromDevice twoPaused) twoAccepted :=
    .accept (by decide +kernel)
  have hprocess : Interlude twoAccepted twoProcessed := .process (by decide +kernel)
  have hremove : (bceVhciUrbRemove 0 (-104)).run twoProcessed = .ok (0, oneRemoved) :=
    run_eq_final (by decide +kernel)
  have hresume : resumeWith.run oneRemoved = .ok (0, oneResumed) :=
    run_eq_final (by decide +kernel)
  have hstates : ∀ u ∈ oneRemoved.urbList, ∀ urb ∈ (oneRemoved.urbs u).hcpriv,
      ∀ v ∈ oneRemoved.vurbs urb, v.state ≠ .controlWaitingForSetupCompletion := by
    decide +kernel
  refine ⟨by decide +kernel, ?_⟩
  refine (waiting_urbs_restarted_iff howned.live howned.urbList_nodup (by decide +kernel)
    (by decide +kernel) hpause
    ((((Relation.ReflTransGen.single haccept₁).tail haccept₂).tail hprocess).tail
      (.removed hremove)) (by decide +kernel) hresume).mpr ?_
  exact fun u hu urb v hhas => hstates u hu urb hhas.hcpriv v hhas.vurb

/-- A control URB whose setup packet is in flight. -/
def setupUrb : Endpoint :=
  endpointSystem.after (fun _ _ => True) [.enqueue 0 ⟨false, 0, 0, 0⟩ 0, .lockStep,
    .event ⟨BCE_VHCI_CMD_TRANSFER_REQUEST, 0, 0, 8⟩, .lockStep, .lockStep, .lockStep, .leave]
    (.fresh 0x00)

def setupPaused : BceVhciTransferQueue := final (pauseWith 1) setupUrb.q

def setupAccepted : BceVhciTransferQueue := acceptOn .toDevice setupPaused

def setupProcessed : BceVhciTransferQueue := processOn .toDevice setupAccepted

def setupResumed : BceVhciTransferQueue := final resumeWith setupProcessed

/-- It waits for its setup packet for ever. -/
theorem setup_packet_not_sent_again :
    ¬∀ (q q₁ q₂ q₃ : BceVhciTransferQueue) (n : Nat), q.Live → q.urbList.Nodup →
      (∀ d, ∀ t ∈ q.sqs d, t.inflight.length ≤ n) → (pauseWith n).run q = .ok (0, q₁) →
      Relation.ReflTransGen Interlude q₁ q₂ → Processed q₂ → FreeSlots q₂.urbList.length q₂ →
      resumeWith.run q₂ = .ok (0, q₃) →
      ∀ u ∈ q₃.urbList, ∀ urb v, q₃.Has u urb v → Awaited q₃.sqs urb v := by
  intro h
  have howned : Owned setupUrb :=
    reachable_owned (G := fun _ _ => True)
      (.after (.of_init (Endpoint.fresh_init 0x00)) (by decide +kernel))
  have hin : ∀ d, ∀ t ∈ setupUrb.q.sqs d, t.inflight.length ≤ 1 := by
    intro d
    cases d
    · decide +kernel
    · decide +kernel
  have hpause : (pauseWith 1).run setupUrb.q = .ok (0, setupPaused) :=
    run_eq_final (by decide +kernel)
  have haccept : Interlude setupPaused setupAccepted := .accept (by decide +kernel)
  have hprocess : Interlude setupAccepted setupProcessed := .process (by decide +kernel)
  have hprocessed : Processed setupProcessed := by
    intro d
    cases d
    · decide +kernel
    · decide +kernel
  have hresume : resumeWith.run setupProcessed = .ok (0, setupResumed) :=
    run_eq_final (by decide +kernel)
  have hsome : (setupResumed.vurbs 0).isSome = true := by decide +kernel
  obtain ⟨v, hv⟩ := Option.isSome_iff_exists.mp hsome
  have hstate : ∀ v ∈ setupResumed.vurbs 0, v.urb = 0 ∧
      v.state = .controlWaitingForSetupCompletion := by
    decide +kernel
  have hhas : setupResumed.Has 0 0 v := ⟨by decide +kernel, hv, (hstate v hv).1⟩
  obtain ⟨d, t, ht, e, he, -⟩ := h setupUrb.q setupPaused setupProcessed setupResumed 1 howned.live
    howned.urbList_nodup hin hpause ((Relation.ReflTransGen.single haccept).tail hprocess)
    hprocessed (by decide +kernel) hresume 0 (by decide +kernel) 0 v hhas (.inl (hstate v hv).2)
  have hnone : ∀ d, ∀ t ∈ setupResumed.sqs d, t.inflight = [] := by
    intro d
    cases d
    · decide +kernel
    · decide +kernel
  simp [hnone d t ht] at he

end BceDriver
