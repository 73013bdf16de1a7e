import BceDriver.Vhci.Lifecycle

/-!
# All or nothing, and what is left (`bce_vhci_create`, `bce_vhci_destroy`)

- `bceVhciCreate_returns`: where nothing is in use, the creation returns.
- `vhci_create_destroy`: a creation that fails leaves what was held before, but for the
  workqueue and the host controller driver, and an id if there was no memory for the
  elements of a queue; one that succeeds is released by `bce_vhci_destroy`, but for the
  same two. `bce_vhci_destroy` after a creation that failed faults, unless no queue had
  been created.
-/

namespace BceDriver

/-- What a failed creation of the host controller can keep of the ids. -/
def BceVhciOutcome.Loses (o : BceVhciOutcome) (L : Set Resource) : Prop :=
  (∃ ch, (o.msg ch).Loses L) ∨ o.evCq.Loses L ∨ ∃ ch, (o.ev ch).sq.Loses L

/-- Where the workqueue and the host controller driver will be -/
def BceVhciOutcome.hcdPlaces (o : BceVhciOutcome) : List Place :=
  placesAt (fun p => .object (.workqueue p)) o.tqStateWq ++
    (placesAt (fun p => .object (.hcd p)) o.hcd ++ placesAt (fun p => .object (.addedHcd p)) o.hcd)

/-- Where everything that a creation acquires will be -/
def BceVhciOutcome.places (o : BceVhciOutcome) : List Place :=
  .object (.node .bceVhci) :: (VhciChannel.all.flatMap (fun ch => (o.msg ch).places) ++
    (o.evCq.places ++ (VhciChannel.all.flatMap (fun ch => (o.ev ch).places) ++ o.hcdPlaces)))

theorem BceVhciOutcome.Loses.no_queue {o : BceVhciOutcome} {L : Set Resource} (h : o.Loses L) :
    ∀ c q, Resource.queue c q ∉ L := by
  obtain ⟨ch, h⟩ | h | ⟨ch, h⟩ := h
  · exact h.no_queue
  · exact h.no_queue
  · exact h.no_queue

theorem BceVhciOutcome.Loses.empty (o : BceVhciOutcome) : o.Loses ∅ :=
  .inr (.inl (.inl rfl))

namespace BceVhciLife

/-- `bce_vhci` as `apple_bce_probe` has allocated it, the class registered. -/
structure Fresh (v : BceVhciLife) : Prop where
  ready : v.Ready
  devClass : v.kernel (.devClass .bceVhci) = true
  msg : ∀ ch, (v.msg ch).cq = none
  evCq : v.evCq = none
  ev : ∀ ch, (v.ev ch).sq = none
  tqStateWq : v.tqStateWq = none
  hcd : v.hcd = none

/-- What neither `bce_vhci_create` nor `bce_vhci_destroy` releases. -/
def leaked (v : BceVhciLife) : Set Resource :=
  objectAt .workqueue v.tqStateWq ∪ objectAt .hcd v.hcd

variable {v v' v'' w u : BceVhciLife} {s : DriverState} {ch : VhciChannel} {F G L : Set Resource}
variable {status : Int} {o : BceVhciOutcome}

/-! ## Event queues -/

/-- A step that leaves the message queues and what comes after the event queues. -/
structure EventsOnly (v v' : BceVhciLife) : Prop where
  kept : v.Kept v'.toDriverState
  msg : v'.msg = v.msg
  tqStateWq : v'.tqStateWq = v.tqStateWq
  hcd : v'.hcd = v.hcd

theorem EvOnly.eventsOnly (h : v.EvOnly v') : v.EventsOnly v' :=
  ⟨h.kept, h.msg, h.tqStateWq, h.hcd⟩

theorem EventsOnly.trans (h : v.EventsOnly v') (h' : v'.EventsOnly v'') : v.EventsOnly v'' where
  kept := h.kept.trans h'.kept
  msg := h'.msg.trans h.msg
  tqStateWq := h'.tqStateWq.trans h.tqStateWq
  hcd := h'.hcd.trans h.hcd

/-- What the creations up to the first that fails leave. -/
theorem eventQueues_recorded (hready : v.Ready) (hnull : ∀ ch, (v.ev ch).sq = none)
    (h : untilFailure (bceVhciEventQueueCreate o.ev) VhciChannel.all v = some (status, v')) :
    v.EvOnly v' ∧ ∃ Fs, List.Forall₂ (fun ch F => RecordsEv ch F v') VhciChannel.all Fs ∧
      Fs.Pairwise Disjoint ∧ ∃ L, (status = 0 → L = ∅) ∧
        (status ≠ 0 → ∃ ch, (o.ev ch).sq.Loses L) ∧ Disjoint (totalOf Fs) L ∧
        Acquires held (totalOf Fs ∪ L) v v' := by
  obtain ⟨honly, -, Fs, hrec, hpair, -, -, L, hL⟩ :=
    untilFailure_creates held RecordsEv (fun w => v.EvOnly w)
      (fun L => ∃ ch, (o.ev ch).sq.Loses L) (fun ch w status w' hI hnone hw => by
        obtain ⟨honly, hothers, hdone, hfailed⟩ :=
          bceVhciEventQueueCreate_creates (hI.kept.ready hready) hw
        refine ⟨hI.trans honly, hothers, hdone, fun hne => ?_⟩
        obtain ⟨hnone, L, hL, hacq⟩ := hfailed hne
        exact ⟨hnone, L, ⟨ch, hL⟩, hacq⟩)
      ⟨.refl, rfl, rfl, rfl, rfl⟩ VhciChannel.all_nodup (fun ch _ => .inl ⟨hnull ch, rfl⟩) h
  exact ⟨honly, Fs, hrec, hpair, L, hL⟩

theorem bceVhciCreateEventQueues_returns {rest : List Place} (hserving : v.Serving)
    (hnull : ∀ ch, (v.ev ch).sq = none)
    (h : v.Unused (o.evCq.places ++ (VhciChannel.all.flatMap (fun ch => (o.ev ch).places) ++
      rest))) :
    ∃ status v', v.bceVhciCreateEventQueues o = some (status, v') ∧
      (status = 0 → v'.Unused rest) := by
  obtain ⟨evCq, s, hcq, hunused⟩ := DriverState.bceCreateCq_returns hserving h
  have hcreated := DriverState.bceCreateCq_created hcq
  simp only [bceVhciCreateEventQueues, hcq, Option.bind_some]
  cases evCq with
  | none => exact returns_of_failure (by decide) ⟨_, rfl⟩
  | some c =>
    obtain ⟨i, hi, hacqC⟩ := hcreated.done c rfl
    let u : BceVhciLife := { v.withDriver s with evCq := some c }
    have hserving' : u.Serving := hcreated.kept.serving hserving
    have hacqC : Acquires held (queueWithId c ⟨i, .cq⟩) v u := acquires_of_driver hacqC rfl
    obtain ⟨st, w, hcreate, hrest⟩ := untilFailure_returns (fun w : BceVhciLife => w.Serving)
      (fun l w => w.Unused l) (fun ch => (o.ev ch).places) (fun ch w rest hI hw => by
        obtain ⟨status, w', hstep, hunused⟩ := bceVhciEventQueueCreate_returns hI hw
        obtain ⟨honly, -⟩ := bceVhciEventQueueCreate_creates hI.ready hstep
        exact ⟨status, w', hstep, fun h0 => ⟨honly.kept.serving hI, hunused h0⟩⟩) hserving' hunused
    simp only [show untilFailure (bceVhciEventQueueCreate o.ev) VhciChannel.all u = some (st, w)
      from hcreate, u, Option.bind_some]
    split
    · obtain ⟨honly, Fs, hrec, hpair, L, -, -, -, hacq⟩ :=
        eventQueues_recorded hserving'.ready hnull hcreate
      have hdisj := (Set.disjoint_union_right.mp (hacqC.disjoint hacq)).1
      have htotal := hacqC.trans hacq
      obtain ⟨x, hdestroy, -⟩ := bceVhciDestroyEventQueues_releases
        (honly.kept.ready hserving'.ready) ⟨.inr ⟨c, i, honly.evCq, hi, rfl⟩, hrec, hpair⟩
        hdisj.symm (Set.union_subset (fun r hr => htotal.subset (.inr (.inl hr)))
          (fun r hr => htotal.subset (.inl hr)))
      exact ⟨-EINVAL, x, by rw [hdestroy, Option.map_some], fun h0 => absurd h0 (by decide)⟩
    · next hgo => exact ⟨0, w, rfl, fun _ => (hrest (not_not.mp hgo)).2⟩

theorem bceVhciCreateEventQueues_created (hready : v.Ready) (hnull : ∀ ch, (v.ev ch).sq = none)
    (h : v.bceVhciCreateEventQueues o = some (status, v')) :
    v.EventsOnly v' ∧
    (status = 0 → ∃ C Fs, EvHeld C Fs v' ∧ Disjoint (totalOf Fs) C ∧
      Acquires held (totalOf Fs ∪ C) v v') ∧
    (status ≠ 0 → ∃ L, o.Loses L ∧ Acquires held L v v') := by
  obtain ⟨⟨evCq, s⟩, hcq, h⟩ := Option.bind_eq_some_iff.mp h
  have hcreated := DriverState.bceCreateCq_created hcq
  cases evCq with
  | none =>
    obtain ⟨rfl, rfl⟩ := Prod.mk.inj (Option.some.inj h)
    obtain ⟨L, hL, hacq⟩ := hcreated.failed rfl
    exact ⟨⟨hcreated.kept, rfl, rfl, rfl⟩, nofun,
      fun _ => ⟨L, .inr (.inl hL), acquires_of_driver hacq rfl⟩⟩
  | some c =>
    obtain ⟨i, hi, hacqC⟩ := hcreated.done c rfl
    obtain ⟨⟨st, w⟩, hcreate, h⟩ := Option.bind_eq_some_iff.mp h
    let u : BceVhciLife := { v.withDriver s with evCq := some c }
    have hu : v.EventsOnly u := ⟨hcreated.kept, rfl, rfl, rfl⟩
    have hacqC : Acquires held (queueWithId c ⟨i, .cq⟩) v u := acquires_of_driver hacqC rfl
    obtain ⟨honly, Fs, hrec, hpair, L, hzero, hlost, hapart, hacq⟩ :=
      eventQueues_recorded (v := u) (hu.kept.ready hready) hnull hcreate
    have hdisj := hacqC.disjoint hacq
    rw [Set.disjoint_union_right] at hdisj
    have hevHeld : EvHeld (queueWithId c ⟨i, .cq⟩) Fs w :=
      ⟨.inr ⟨c, i, honly.evCq, hi, rfl⟩, hrec, hpair⟩
    have htotal := hacqC.trans hacq
    simp only at h
    split at h
    · next hfail =>
      obtain ⟨w', hw', heq⟩ := Option.map_eq_some_iff.mp h
      obtain ⟨rfl, rfl⟩ := Prod.mk.inj heq
      have hheld : totalOf Fs ∪ queueWithId c ⟨i, .cq⟩ ⊆ w.held :=
        Set.union_subset (fun r hr => htotal.subset (.inr (.inl hr)))
          (fun r hr => htotal.subset (.inl hr))
      obtain ⟨x, hx, honly', -, hrel⟩ := bceVhciDestroyEventQueues_releases
        (honly.kept.ready (hu.kept.ready hready)) hevHeld hdisj.1.symm hheld
      obtain rfl : x = w' := Option.some.inj (hx.symm.trans hw')
      refine ⟨(hu.trans honly.eventsOnly).trans honly'.eventsOnly, nofun,
        fun _ => ⟨L, .inr (.inr (hlost hfail)), ?_⟩⟩
      have hback : queueWithId c ⟨i, .cq⟩ ∪ (totalOf Fs ∪ L) =
          L ∪ (totalOf Fs ∪ queueWithId c ⟨i, .cq⟩) := by
        rw [Set.union_comm _ (totalOf Fs ∪ L), Set.union_comm _ L, Set.union_assoc]
      rw [hback] at htotal
      exact htotal.release hrel (Set.disjoint_union_right.mpr ⟨hapart.symm, hdisj.2.symm⟩)
    · next hgo =>
      obtain ⟨rfl, rfl⟩ := Prod.mk.inj (Option.some.inj h)
      obtain rfl := hzero (not_not.mp hgo)
      rw [Set.union_empty, Set.union_comm] at htotal
      exact ⟨hu.trans honly.eventsOnly, fun _ => ⟨_, Fs, hevHeld, hdisj.1.symm, htotal⟩,
        fun hne => absurd rfl hne⟩

/-! ## The labels of `bce_vhci_create` -/

/-- A step that leaves all pointers. -/
structure SamePointers (v v' : BceVhciLife) : Prop where
  kept : v.Kept v'.toDriverState
  msg : v'.msg = v.msg
  ev : v'.ev = v.ev
  evCq : v'.evCq = v.evCq
  tqStateWq : v'.tqStateWq = v.tqStateWq
  hcd : v'.hcd = v.hcd

theorem SamePointers.trans (h : v.SamePointers v') (h' : v'.SamePointers v'') :
    v.SamePointers v'' where
  kept := h.kept.trans h'.kept
  msg := h'.msg.trans h.msg
  ev := h'.ev.trans h.ev
  evCq := h'.evCq.trans h.evCq
  tqStateWq := h'.tqStateWq.trans h.tqStateWq
  hcd := h'.hcd.trans h.hcd

/-- The device node -/
def vhciNode : Set Resource := {.object (.node .bceVhci)}

theorem deviceDestroy_releases (hclass : .object (.devClass .bceVhci) ∈ w.held)
    (hnode : vhciNode ⊆ w.held) :
    ∃ s, w.deviceDestroy .bceVhci = some s ∧ w.SamePointers (w.withDriver s) ∧
      Releases held vhciNode w (w.withDriver s) := by
  obtain ⟨s, hs, hheld, hkept⟩ := DriverState.deviceDestroy_held hclass
  exact ⟨s, hs, ⟨hkept, rfl, rfl, rfl, rfl, rfl⟩, hnode, hheld⟩

theorem createFailMq_left {K : Set Resource} {st : Int} (hst : st ≠ 0)
    (hclass : .object (.devClass .bceVhci) ∈ v.held) (hdisj : Disjoint K vhciNode)
    (hacq : Acquires held (K ∪ vhciNode) v w) :
    ∃ v', w.createFailMq st = some (st, v') ∧ w.SamePointers v' ∧ Acquires held K v v' := by
  obtain ⟨s, hs, hsame, hrel⟩ := deviceDestroy_releases (hacq.mono hclass)
    (Set.subset_union_right.trans hacq.subset)
  refine ⟨w.withDriver s, ?_, hsame, hacq.release hrel hdisj⟩
  simp only [createFailMq, hs, Option.map_some, if_neg hst]

/-- The first of the message queues, once they are all there. -/
theorem MsgHeld.first {Fs : List (Set Resource)} (h : MsgHeld Fs w) (hne : ∀ F ∈ Fs, F.Nonempty) :
    ∃ c q, (w.msg .commands).cq = some c ∧ .queue c q ∈ totalOf Fs := by
  obtain ⟨hrec, -⟩ := h
  obtain _ | @⟨_, F, _, Fs, hF, -⟩ := hrec
  obtain ⟨-, rfl⟩ | ⟨c, q, d, i, j, hptrs, -, -, -, rfl⟩ := hF
  · exact absurd (hne ∅ List.mem_cons_self) Set.not_nonempty_empty
  · exact ⟨c, ⟨i, .cq⟩, by rw [hptrs], .inl (.inl (.inl (.inl rfl)))⟩

theorem createFailEq_left {K : Set Resource} {Fs : List (Set Resource)} {st : Int} (hst : st ≠ 0)
    (hready : w.Ready) (hclass : .object (.devClass .bceVhci) ∈ v.held)
    (hmsg : MsgHeld Fs w) (hne : ∀ F ∈ Fs, F.Nonempty) (hK : ∀ c q, Resource.queue c q ∉ K)
    (hnode : Disjoint K vhciNode) (hdisj : Disjoint (K ∪ vhciNode) (totalOf Fs))
    (hacq : Acquires held (K ∪ vhciNode ∪ totalOf Fs) v w) :
    ∃ v', w.createFailEq st = some (st, v') ∧ w.Kept v'.toDriverState ∧
      v'.tqStateWq = w.tqStateWq ∧ v'.hcd = w.hcd ∧ Acquires held K v v' ∧
      ∃ c, (v'.msg .commands).cq = some c ∧ v'.mem c = none := by
  obtain ⟨x, hx, honly, hptrs, hrel⟩ := bceVhciDestroyMessageQueues_releases hready hmsg
    (Set.subset_union_right.trans hacq.subset)
  obtain ⟨v', hv', hsame, hleft⟩ := createFailMq_left hst hclass hnode (hacq.release hrel hdisj)
  refine ⟨v', by rw [createFailEq, hx, Option.bind_some, hv'], honly.kept.trans hsame.kept,
    hsame.tqStateWq.trans honly.tqStateWq, hsame.hcd.trans honly.hcd, hleft, ?_⟩
  obtain ⟨c, q, hc, hq⟩ := hmsg.first hne
  refine ⟨c, ?_, dead_of_released (.inr hq) hacq hK hleft.held_eq⟩
  rw [hsame.msg, hptrs]
  exact hc

theorem createFailHcd_left {K E C : Set Resource} {Fs Gs : List (Set Resource)} {st : Int}
    (hst : st ≠ 0) (hready : w.Ready) (hclass : .object (.devClass .bceVhci) ∈ v.held)
    (hmsg : MsgHeld Fs w) (hne : ∀ F ∈ Fs, F.Nonempty) (hev : EvHeld C Gs w)
    (hC : Disjoint (totalOf Gs) C) (hE : E = totalOf Gs ∪ C)
    (hK : ∀ c q, Resource.queue c q ∉ K) (hnode : Disjoint K vhciNode)
    (hdisj : Disjoint (K ∪ vhciNode) (totalOf Fs))
    (hdisj' : Disjoint (K ∪ vhciNode ∪ totalOf Fs) E)
    (hacq : Acquires held (K ∪ vhciNode ∪ totalOf Fs ∪ E) v w) :
    ∃ v', w.createFailHcd st = some (st, v') ∧ w.Kept v'.toDriverState ∧
      v'.tqStateWq = w.tqStateWq ∧ v'.hcd = w.hcd ∧ Acquires held K v v' ∧
      ∃ c, (v'.msg .commands).cq = some c ∧ v'.mem c = none := by
  subst hE
  obtain ⟨x, hx, honly, -, hrel⟩ := bceVhciDestroyEventQueues_releases hready hev hC
    (Set.subset_union_right.trans hacq.subset)
  have hmsg' : MsgHeld Fs x := by
    unfold MsgHeld RecordsMsg
    rw [honly.msg]
    exact hmsg
  obtain ⟨v', hv', hkept, hwq, hhcd, hleft, hstale⟩ := createFailEq_left hst
    (honly.kept.ready hready) hclass hmsg' hne hK hnode hdisj (hacq.release hrel hdisj')
  exact ⟨v', by rw [createFailHcd, hx, Option.bind_some, hv'], honly.kept.trans hkept,
    hwq.trans honly.tqStateWq, hhcd.trans honly.hcd, hleft, hstale⟩

/-- The host controller with all it acquires. -/
structure Complete (v v' : BceVhciLife) (p : Nat) (Fs : List (Set Resource)) (C : Set Resource)
    (Gs : List (Set Resource)) : Prop where
  ready : v'.Ready
  hcd : v'.hcd = some p
  msg : MsgHeld Fs v'
  ev : EvHeld C Gs v'
  cq : Disjoint (totalOf Gs) C
  apart : Disjoint vhciNode (totalOf Fs)
  apart' : Disjoint (vhciNode ∪ totalOf Fs) (totalOf Gs ∪ C)
  queues : Disjoint (vhciNode ∪ totalOf Fs ∪ (totalOf Gs ∪ C)) v'.leaked
  added : Disjoint (vhciNode ∪ totalOf Fs ∪ (totalOf Gs ∪ C) ∪ v'.leaked)
    {.object (.addedHcd p)}
  acquired : Acquires held (vhciNode ∪ totalOf Fs ∪ (totalOf Gs ∪ C) ∪ v'.leaked ∪
    {.object (.addedHcd p)}) v v'

/-- Nothing but the workqueue and the host controller driver is left, and the first of
the message queues is destroyed. -/
structure Undone (v v' : BceVhciLife) : Prop where
  left : Acquires held v'.leaked v v'
  stale : ∃ c, (v'.msg .commands).cq = some c ∧ v'.mem c = none

theorem leaked_no_queue (c : Nat) (q : BceQueue) : Resource.queue c q ∉ v.leaked := by
  unfold leaked objectAt
  cases v.tqStateWq <;> cases v.hcd <;> simp

/-- From the workqueue on, everything is undone at a failure: `w` has all that comes before,
and `u` what these calls have acquired. -/
theorem createFailHcd_undone {Fs Gs : List (Set Resource)} {C : Set Resource} {st : Int}
    (hst : st ≠ 0) (hready : u.Ready) (hclass : .object (.devClass .bceVhci) ∈ v.held)
    (hmsg : MsgHeld Fs u) (hne : ∀ F ∈ Fs, F.Nonempty) (hev : EvHeld C Gs u)
    (hC : Disjoint (totalOf Gs) C) (hnode : Disjoint vhciNode (totalOf Fs))
    (hapart : Disjoint (vhciNode ∪ totalOf Fs) (totalOf Gs ∪ C))
    (hacq : Acquires held (vhciNode ∪ totalOf Fs ∪ (totalOf Gs ∪ C)) v w)
    (hleak : Acquires held u.leaked w u) :
    ∃ v', u.createFailHcd st = some (st, v') ∧ u.Kept v'.toDriverState ∧ Undone v v' := by
  have htotal := hacq.trans hleak
  have hparts := Set.disjoint_union_left.mp (hacq.disjoint hleak)
  have hparts' := Set.disjoint_union_left.mp hparts.1
  have horder : vhciNode ∪ totalOf Fs ∪ (totalOf Gs ∪ C) ∪ u.leaked =
      u.leaked ∪ vhciNode ∪ totalOf Fs ∪ (totalOf Gs ∪ C) := by
    rw [Set.union_comm _ u.leaked]
    simp only [Set.union_assoc]
  rw [horder] at htotal
  obtain ⟨v', hv', hkept, htq, hh, hleft, hstale⟩ := createFailHcd_left (E := totalOf Gs ∪ C) hst
    hready hclass hmsg hne hev hC rfl leaked_no_queue hparts'.1.symm
    (Set.disjoint_union_left.mpr ⟨hparts'.2.symm, hnode⟩)
    (by
      rw [Set.union_assoc]
      exact Set.disjoint_union_left.mpr ⟨hparts.2.symm, hapart⟩)
    htotal
  have heq : v'.leaked = u.leaked := by
    unfold leaked
    rw [htq, hh]
  exact ⟨v', hv', hkept, heq ▸ hleft, hstale⟩

theorem createWorkqueue_created {Fs Gs : List (Set Resource)} {C : Set Resource}
    (hready : w.Ready) (hclass : .object (.devClass .bceVhci) ∈ v.held)
    (hmsg : MsgHeld Fs w) (hne : ∀ F ∈ Fs, F.Nonempty) (hev : EvHeld C Gs w)
    (hC : Disjoint (totalOf Gs) C) (hnode : Disjoint vhciNode (totalOf Fs))
    (hapart : Disjoint (vhciNode ∪ totalOf Fs) (totalOf Gs ∪ C))
    (hacq : Acquires held (vhciNode ∪ totalOf Fs ∪ (totalOf Gs ∪ C)) v w)
    (h : w.createWorkqueue o = some (status, v')) :
    w.Kept v'.toDriverState ∧ (status = 0 → ∃ p, Complete v v' p Fs C Gs) ∧
      (status ≠ 0 → Undone v v') := by
  obtain ⟨vdev, msg, evCq, ev, tqStateWq, hcd, addHcd⟩ := o
  obtain ⟨s₁, hwq, h⟩ := Option.bind_eq_some_iff.mp h
  obtain ⟨s₂, hhcd, h⟩ := Option.bind_eq_some_iff.mp h
  obtain ⟨hacq₁, hkept₁⟩ := DriverState.acquireAt_acquires hwq
  obtain ⟨hacq₂, hkept₂⟩ := DriverState.acquireAt_acquires hhcd
  let u : BceVhciLife := { w.withDriver s₂ with tqStateWq := tqStateWq, hcd := hcd }
  have hready' : u.Ready := (hkept₁.trans hkept₂).ready hready
  have hleak : Acquires held u.leaked w u := acquires_of_driver (hacq₁.trans hacq₂) rfl
  -- the failure of either call
  have hfail : ∀ {st : Int}, st ≠ 0 → u.createFailHcd st = some (status, v') →
      status = st ∧ w.Kept v'.toDriverState ∧ Undone v v' := by
    intro st hst hf
    obtain ⟨x, hx, hkept, hundone⟩ :=
      createFailHcd_undone (u := u) hst hready' hclass hmsg hne hev hC hnode hapart hacq hleak
    obtain ⟨rfl, rfl⟩ := Prod.mk.inj (Option.some.inj (hx.symm.trans hf))
    exact ⟨rfl, (hkept₁.trans hkept₂).trans hkept, hundone⟩
  cases hcd with
  | none =>
    obtain ⟨rfl, hkept, hundone⟩ := hfail (by decide) h
    exact ⟨hkept, nofun, fun _ => hundone⟩
  | some p =>
    simp only at h
    split at h
    · next hadd =>
      obtain ⟨rfl, hkept, hundone⟩ := hfail hadd h
      exact ⟨hkept, fun h0 => absurd h0 hadd, fun _ => hundone⟩
    · obtain ⟨s₃, hadded, heq⟩ := Option.map_eq_some_iff.mp h
      obtain ⟨rfl, rfl⟩ := Prod.mk.inj heq
      obtain ⟨hacq₃, hkept₃⟩ := DriverState.acquire_acquires hadded
      have hadd : Acquires held {.object (.addedHcd p)} u (u.withDriver s₃) :=
        acquires_of_driver hacq₃ rfl
      exact ⟨(hkept₁.trans hkept₂).trans hkept₃, fun _ => ⟨p, {
          ready := hkept₃.ready hready'
          hcd := rfl
          msg := hmsg
          ev := hev
          cq := hC
          apart := hnode
          apart' := hapart
          queues := hacq.disjoint hleak
          added := (hacq.trans hleak).disjoint hadd
          acquired := (hacq.trans hleak).trans hadd }⟩, fun hne => absurd rfl hne⟩

theorem createWorkqueue_returns {Fs Gs : List (Set Resource)} {C : Set Resource}
    (hready : w.Ready) (hclass : .object (.devClass .bceVhci) ∈ v.held)
    (hmsg : MsgHeld Fs w) (hne : ∀ F ∈ Fs, F.Nonempty) (hev : EvHeld C Gs w)
    (hC : Disjoint (totalOf Gs) C) (hnode : Disjoint vhciNode (totalOf Fs))
    (hapart : Disjoint (vhciNode ∪ totalOf Fs) (totalOf Gs ∪ C))
    (hacq : Acquires held (vhciNode ∪ totalOf Fs ∪ (totalOf Gs ∪ C)) v w)
    (h : w.Unused o.hcdPlaces) : ∃ status v', w.createWorkqueue o = some (status, v') := by
  obtain ⟨vdev, msg, evCq, ev, tqStateWq, hcd, addHcd⟩ := o
  obtain ⟨s₁, hwq, hunused₁⟩ := DriverState.acquireAt_returns h
  obtain ⟨s₂, hhcd, hunused₂⟩ := DriverState.acquireAt_returns hunused₁
  obtain ⟨hacq₁, hkept₁⟩ := DriverState.acquireAt_acquires hwq
  obtain ⟨hacq₂, hkept₂⟩ := DriverState.acquireAt_acquires hhcd
  let u : BceVhciLife := { w.withDriver s₂ with tqStateWq := tqStateWq, hcd := hcd }
  have hready' : u.Ready := (hkept₁.trans hkept₂).ready hready
  have hleak : Acquires held u.leaked w u := acquires_of_driver (hacq₁.trans hacq₂) rfl
  have hfail : ∀ st : Int, st ≠ 0 → ∃ status v', u.createFailHcd st = some (status, v') := by
    intro st hst
    obtain ⟨x, hx, -⟩ :=
      createFailHcd_undone (u := u) hst hready' hclass hmsg hne hev hC hnode hapart hacq hleak
    exact ⟨st, x, hx⟩
  cases hcd with
  | none =>
    obtain ⟨status, x, hx⟩ := hfail (-ENOMEM) (by decide)
    exact ⟨status, x, Option.bind_eq_some_iff.mpr ⟨s₁, hwq,
      Option.bind_eq_some_iff.mpr ⟨s₂, hhcd, hx⟩⟩⟩
  | some p =>
    by_cases hadd : addHcd = 0
    · obtain ⟨s₃, hadded, -⟩ := DriverState.acquire_returns hunused₂
      refine ⟨0, u.withDriver s₃, Option.bind_eq_some_iff.mpr ⟨s₁, hwq,
        Option.bind_eq_some_iff.mpr ⟨s₂, hhcd, ?_⟩⟩⟩
      exact (if_neg (not_not.mpr hadd)).trans (Option.map_eq_some_iff.mpr ⟨s₃, hadded, rfl⟩)
    · obtain ⟨status, x, hx⟩ := hfail addHcd hadd
      refine ⟨status, x, Option.bind_eq_some_iff.mpr ⟨s₁, hwq,
        Option.bind_eq_some_iff.mpr ⟨s₂, hhcd, ?_⟩⟩⟩
      exact (if_pos hadd).trans hx

/-- No queue was created, and no host controller driver. -/
structure Null (v : BceVhciLife) : Prop where
  msg : ∀ ch, (v.msg ch).cq = none
  evCq : v.evCq = none
  ev : ∀ ch, (v.ev ch).sq = none
  tqStateWq : v.tqStateWq = none
  hcd : v.hcd = none

theorem bceVhciCreate_created (hv : v.Fresh) (h : v.bceVhciCreate o = some (status, v')) :
    v.Kept v'.toDriverState ∧
    (status = 0 → ∃ p Fs C Gs, Complete v v' p Fs C Gs) ∧
    (status ≠ 0 → (∃ L, o.Loses L ∧ Acquires held (v'.leaked ∪ L) v v') ∧
      (v'.Null ∨ ∃ c, (v'.msg .commands).cq = some c ∧ v'.mem c = none)) := by
  have hclass : Resource.object (.devClass .bceVhci) ∈ v.held := hv.devClass
  have hnothing : v.leaked = ∅ := by
    simp [leaked, objectAt, hv.tqStateWq, hv.hcd]
  unfold bceVhciCreate at h
  split at h
  · next st _ =>
    obtain ⟨rfl, rfl⟩ := Prod.mk.inj (Option.some.inj h)
    have hne : (if st = 0 then -EINVAL else st) ≠ 0 := by
      split
      · decide
      · assumption
    refine ⟨.refl, fun h0 => absurd h0 hne,
      fun _ => ⟨⟨∅, .empty o, ?_⟩, .inl ⟨hv.msg, hv.evCq, hv.ev, hv.tqStateWq, hv.hcd⟩⟩⟩
    rw [hnothing, Set.union_empty]
    exact .refl
  · obtain ⟨s₁, hnode, h⟩ := Option.bind_eq_some_iff.mp h
    obtain ⟨hacq₁, hkept₁⟩ := DriverState.acquire_acquires hnode
    have hacq₁ : Acquires held vhciNode v (v.withDriver s₁) := acquires_of_driver hacq₁ rfl
    obtain ⟨⟨st, w⟩, hmsgs, h⟩ := Option.bind_eq_some_iff.mp h
    obtain ⟨honly, hdone, hfailed⟩ := bceVhciCreateMessageQueues_created
      (v := v.withDriver s₁) (hkept₁.ready hv.ready) hv.msg hmsgs
    simp only at h
    split at h
    · -- the message queues were destroyed again
      next hst =>
      obtain ⟨hstale, ch, L, hL, hacqL⟩ := hfailed hst
      have hacq := hacq₁.trans hacqL
      rw [Set.union_comm] at hacq
      obtain ⟨x, hx, hsame, hleft⟩ := createFailMq_left hst hclass (hacq₁.disjoint hacqL).symm hacq
      obtain ⟨rfl, rfl⟩ := Prod.mk.inj (Option.some.inj (h.symm.trans hx))
      refine ⟨(hkept₁.trans honly.kept).trans hsame.kept, fun h0 => absurd h0 hst,
        fun _ => ⟨⟨L, .inl ⟨ch, hL⟩, ?_⟩, ?_⟩⟩
      · have hleaked : v'.leaked = ∅ := by
          rw [← hnothing]
          unfold leaked
          rw [hsame.tqStateWq, hsame.hcd, honly.tqStateWq, honly.hcd]
          rfl
        rw [hleaked, Set.empty_union]
        exact hleft
      · obtain hnull | ⟨c, hc, hdead⟩ := hstale
        · refine .inl ⟨?_, ?_, ?_, ?_, ?_⟩
          · rw [hsame.msg]
            exact hnull
          · exact (hsame.evCq.trans honly.evCq).trans hv.evCq
          · rw [hsame.ev, honly.ev]
            exact hv.ev
          · exact (hsame.tqStateWq.trans honly.tqStateWq).trans hv.tqStateWq
          · exact (hsame.hcd.trans honly.hcd).trans hv.hcd
        · refine .inr ⟨c, by rw [hsame.msg]; exact hc, ?_⟩
          refine DriverState.dead_of_held_subset (F := ∅) ?_ (fun _ => id) hdead
          rw [Set.union_empty]
          exact (hleft.held_eq.trans_subset
            (Set.union_subset_union_right _ Set.subset_union_left)).trans hacq.held_eq.superset
    · next hst =>
      obtain ⟨Fs, hmsg, hne, hacqF⟩ := hdone (not_not.mp hst)
      have hnode := hacq₁.disjoint hacqF
      have hacq := hacq₁.trans hacqF
      have hkept := hkept₁.trans honly.kept
      have hready := hkept.ready hv.ready
      obtain ⟨⟨st', u⟩, hevs, h⟩ := Option.bind_eq_some_iff.mp h
      have hev : ∀ ch, (w.ev ch).sq = none := by
        rw [honly.ev]
        exact hv.ev
      obtain ⟨honly', hdone', hfailed'⟩ := bceVhciCreateEventQueues_created hready hev hevs
      have hmsg' : MsgHeld Fs u := by
        unfold MsgHeld RecordsMsg
        rw [honly'.msg]
        exact hmsg
      simp only at h
      split at h
      · -- the event queues were destroyed again
        next hst' =>
        obtain ⟨L, hL, hacqL⟩ := hfailed' hst'
        have hapart := Set.disjoint_union_left.mp (hacq.disjoint hacqL)
        have htotal := hacq.trans hacqL
        rw [Set.union_comm _ L, ← Set.union_assoc] at htotal
        obtain ⟨x, hx, hkept', htq, hh, hleft, hstale⟩ := createFailEq_left hst'
          (honly'.kept.ready hready) hclass hmsg' hne hL.no_queue hapart.1.symm
          (Set.disjoint_union_left.mpr ⟨hapart.2.symm, hnode⟩) htotal
        obtain ⟨rfl, rfl⟩ := Prod.mk.inj (Option.some.inj (h.symm.trans hx))
        refine ⟨(hkept.trans honly'.kept).trans hkept', fun h0 => absurd h0 hst',
          fun _ => ⟨⟨L, hL, ?_⟩, .inr hstale⟩⟩
        have hleaked : v'.leaked = ∅ := by
          rw [← hnothing]
          unfold leaked
          rw [htq, hh, honly'.tqStateWq, honly'.hcd, honly.tqStateWq, honly.hcd]
          rfl
        rw [hleaked, Set.empty_union]
        exact hleft
      · next hst' =>
        obtain ⟨C, Gs, hevHeld, hC, hacqE⟩ := hdone' (not_not.mp hst')
        obtain ⟨hkept', hcomplete, hundone⟩ :=
          createWorkqueue_created (honly'.kept.ready hready) hclass
          hmsg' hne hevHeld hC hnode (hacq.disjoint hacqE) (hacq.trans hacqE) h
        refine ⟨(hkept.trans honly'.kept).trans hkept', fun h0 => ?_, fun h0 => ?_⟩
        · obtain ⟨p, hp⟩ := hcomplete h0
          exact ⟨p, Fs, C, Gs, hp⟩
        · refine ⟨⟨∅, .empty o, ?_⟩, .inr (hundone h0).stale⟩
          rw [Set.union_empty]
          exact (hundone h0).left

/-- Where a device is to be created nothing is in use: the creation returns. -/
theorem bceVhciCreate_returns (hv : v.Fresh) (hpresent : v.isBeingRemoved = false)
    (h : v.Unused o.places) : ∃ status v', v.bceVhciCreate o = some (status, v') := by
  have hclass : Resource.object (.devClass .bceVhci) ∈ v.held := hv.devClass
  unfold bceVhciCreate
  split
  · exact ⟨_, _, rfl⟩
  · obtain ⟨s₁, hnode, hunused₁⟩ := DriverState.acquire_returns h
    obtain ⟨hacq₁, hkept₁⟩ := DriverState.acquire_acquires hnode
    have hacq₁ : Acquires held vhciNode v (v.withDriver s₁) := acquires_of_driver hacq₁ rfl
    have hserving : (v.withDriver s₁).Serving := hkept₁.serving ⟨hpresent, hv.ready⟩
    obtain ⟨st, w, hmsgs, hunused₂⟩ := bceVhciCreateMessageQueues_returns hserving hv.msg hunused₁
    obtain ⟨honly, hdone, hfailed⟩ := bceVhciCreateMessageQueues_created hserving.ready hv.msg hmsgs
    simp only [hnode, hmsgs, Option.bind_some]
    split
    · -- the message queues were destroyed again
      next hst =>
      obtain ⟨-, ch, L, -, hacqL⟩ := hfailed hst
      have hacq := hacq₁.trans hacqL
      rw [Set.union_comm] at hacq
      obtain ⟨x, hx, -⟩ := createFailMq_left hst hclass (hacq₁.disjoint hacqL).symm hacq
      exact ⟨st, x, hx⟩
    · next hst =>
      obtain ⟨Fs, hmsg, hne, hacqF⟩ := hdone (not_not.mp hst)
      have hnode := hacq₁.disjoint hacqF
      have hacq := hacq₁.trans hacqF
      have hserving₂ := honly.kept.serving hserving
      have hev : ∀ ch, (w.ev ch).sq = none := by
        rw [honly.ev]
        exact hv.ev
      obtain ⟨st', u, hevs, hunused₃⟩ :=
        bceVhciCreateEventQueues_returns hserving₂ hev (hunused₂ (not_not.mp hst))
      obtain ⟨honly', hdone', hfailed'⟩ := bceVhciCreateEventQueues_created hserving₂.ready hev hevs
      have hready' := honly'.kept.ready hserving₂.ready
      have hmsg' : MsgHeld Fs u := by
        unfold MsgHeld RecordsMsg
        rw [honly'.msg]
        exact hmsg
      simp only [hevs, Option.bind_some]
      split
      · -- the event queues were destroyed again
        next hst' =>
        obtain ⟨L, hL, hacqL⟩ := hfailed' hst'
        have hapart := Set.disjoint_union_left.mp (hacq.disjoint hacqL)
        have htotal := hacq.trans hacqL
        rw [Set.union_comm _ L, ← Set.union_assoc] at htotal
        obtain ⟨x, hx, -⟩ := createFailEq_left hst' hready' hclass hmsg' hne hL.no_queue
          hapart.1.symm (Set.disjoint_union_left.mpr ⟨hapart.2.symm, hnode⟩) htotal
        exact ⟨st', x, hx⟩
      · next hst' =>
        obtain ⟨C, Gs, hevHeld, hC, hacqE⟩ := hdone' (not_not.mp hst')
        exact createWorkqueue_returns hready' hclass hmsg' hne hevHeld hC hnode
          (hacq.disjoint hacqE) (hacq.trans hacqE) (hunused₃ (not_not.mp hst'))

/-! ## `bce_vhci_destroy` -/

theorem Complete.destroy {p : Nat} {Fs Gs : List (Set Resource)} {C : Set Resource}
    (h : Complete v v' p Fs C Gs) (hclass : .object (.devClass .bceVhci) ∈ v.held)
    (acceptsNull : Bool) :
    ∃ v'', v'.bceVhciDestroy acceptsNull = some v'' ∧ v'.Kept v''.toDriverState ∧
      Acquires held v'.leaked v v'' := by
  have hadded : Resource.object (.addedHcd p) ∈ v'.held := h.acquired.subset (.inr rfl)
  obtain ⟨s₁, h₁, hrel₁, hkept₁⟩ := DriverState.release_releases hadded
  have hrel₁ : Releases held {.object (.addedHcd p)} v' (v'.withDriver s₁) :=
    releases_of_driver hrel₁ rfl
  have hacq₁ := h.acquired.release hrel₁ h.added
  have horder : vhciNode ∪ totalOf Fs ∪ (totalOf Gs ∪ C) ∪ v'.leaked =
      v'.leaked ∪ vhciNode ∪ totalOf Fs ∪ (totalOf Gs ∪ C) := by
    rw [Set.union_comm _ v'.leaked]
    simp only [Set.union_assoc]
  rw [horder] at hacq₁
  have hparts := Set.disjoint_union_left.mp h.queues
  have hparts' := Set.disjoint_union_left.mp hparts.1
  have hready₁ := hkept₁.ready h.ready
  -- the event queues
  obtain ⟨v₂, h₂, honly₂, -, hrel₂⟩ := bceVhciDestroyEventQueues_releases
    (v := v'.withDriver s₁) hready₁ h.ev h.cq (Set.subset_union_right.trans hacq₁.subset)
  have hacq₂ := hacq₁.release hrel₂ (by
    rw [Set.union_assoc]
    exact Set.disjoint_union_left.mpr ⟨hparts.2.symm, h.apart'⟩)
  have hmsg : MsgHeld Fs v₂ := by
    unfold MsgHeld RecordsMsg
    rw [honly₂.msg]
    exact h.msg
  -- the message queues
  obtain ⟨v₃, h₃, honly₃, -, hrel₃⟩ := bceVhciDestroyMessageQueues_releases
    (honly₂.kept.ready hready₁) hmsg (Set.subset_union_right.trans hacq₂.subset)
  have hacq₃ := hacq₂.release hrel₃ (Set.disjoint_union_left.mpr ⟨hparts'.2.symm, h.apart⟩)
  obtain ⟨s₄, h₄, hsame, hrel₄⟩ := deviceDestroy_releases (hacq₃.mono hclass)
    (Set.subset_union_right.trans hacq₃.subset)
  refine ⟨v₃.withDriver s₄, ?_, ?_, hacq₃.release hrel₄ hparts'.1.symm⟩
  · have hhcd : v'.usbRemoveHcd acceptsNull = some s₁ := by
      simp only [usbRemoveHcd, h.hcd, h₁]
    simp only [bceVhciDestroy, hhcd, Option.bind_some, h₂, h₃, h₄, Option.map_some]
  · exact ((hkept₁.trans honly₂.kept).trans honly₃.kept).trans hsame.kept

/-- Nothing is destroyed where nothing was created, if a null pointer is accepted. -/
theorem Null.destroy (h : v.Null) (hclass : v.kernel (.devClass .bceVhci) = true) :
    v.bceVhciDestroy false = none ∧ ∃ v', v.bceVhciDestroy true = some v' ∧
      v.Kept v'.toDriverState ∧ v'.held = v.held \ vhciNode := by
  have hmsgs : ∀ {w : BceVhciLife}, w.msg = v.msg → w.bceVhciDestroyMessageQueues = some w := by
    intro w hw
    have hone : ∀ ch, bceVhciMessageQueueDestroy ch w = some w := by
      intro ch
      simp only [bceVhciMessageQueueDestroy, hw, h.msg]
    simp only [bceVhciDestroyMessageQueues, VhciChannel.all, releaseAll, hone, Option.bind_some]
  have hevs : v.bceVhciDestroyEventQueues = some v := by
    have hone : ∀ ch, bceVhciEventQueueDestroy ch v = some v := by
      intro ch
      simp only [bceVhciEventQueueDestroy, h.ev]
    simp only [bceVhciDestroyEventQueues, VhciChannel.all, releaseAll, hone, Option.bind_some,
      h.evCq]
  obtain ⟨s, hs, hheld, hkept⟩ := DriverState.deviceDestroy_held hclass
  have hsame : v.withDriver v.toDriverState = v := rfl
  constructor
  · simp only [bceVhciDestroy, usbRemoveHcd, h.hcd, Bool.false_eq_true, if_false,
      Option.bind_none]
  · refine ⟨v.withDriver s, ?_, hkept, hheld⟩
    simp only [bceVhciDestroy, usbRemoveHcd, h.hcd, if_true, Option.bind_some, hsame, hevs,
      hmsgs rfl, hs, Option.map_some]

/-- A queue that was destroyed is not destroyed again. -/
theorem bceVhciDestroy_stale {c : Nat} (hc : (v.msg .commands).cq = some c)
    (hdead : v.mem c = none) (acceptsNull : Bool) : v.bceVhciDestroy acceptsNull = none := by
  let P : BceVhciLife → Prop := fun w => (w.msg .commands).cq = some c ∧ w.mem c = none
  have hmsgs : ∀ w, P w → w.bceVhciDestroyMessageQueues = none := by
    intro w hw
    refine releaseAll_faults (P := P) ?_ ?_ (VhciChannel.mem_all .commands) hw
    · intro ch w w' ⟨hcq, hmem⟩ hstep
      unfold bceVhciMessageQueueDestroy at hstep
      split at hstep
      · cases hstep
        exact ⟨hcq, hmem⟩
      · obtain ⟨s₁, h₁, hstep⟩ := Option.bind_eq_some_iff.mp hstep
        obtain ⟨s₂, h₂, hstep⟩ := Option.bind_eq_some_iff.mp hstep
        obtain ⟨s₃, h₃, rfl⟩ := Option.map_eq_some_iff.mp hstep
        exact ⟨hcq, DriverState.bceDestroyCq_keeps_dead h₃
          (DriverState.bceDestroySq_keeps_dead h₂ (DriverState.releaseAt_dead h₁ hmem))⟩
    · intro w ⟨hcq, hmem⟩
      simp only [bceVhciMessageQueueDestroy, hcq]
      rw [Option.bind_eq_none_iff]
      intro s₁ h₁
      rw [Option.bind_eq_none_iff]
      intro s₂ h₂
      rw [DriverState.bceDestroyCq_dead
        (DriverState.bceDestroySq_keeps_dead h₂ (DriverState.releaseAt_dead h₁ hmem)),
        Option.map_none]
  have hevs : ∀ ch w w', P w → bceVhciEventQueueDestroy ch w = some w' → P w' := by
    intro ch w w' ⟨hcq, hmem⟩ hstep
    unfold bceVhciEventQueueDestroy at hstep
    split at hstep
    · cases hstep
      exact ⟨hcq, hmem⟩
    · obtain ⟨s₁, h₁, hstep⟩ := Option.bind_eq_some_iff.mp hstep
      obtain ⟨s₂, h₂, rfl⟩ := Option.map_eq_some_iff.mp hstep
      exact ⟨hcq, DriverState.bceDestroySq_keeps_dead h₂ (DriverState.releaseAt_dead h₁ hmem)⟩
  unfold bceVhciDestroy
  rw [Option.bind_eq_none_iff]
  intro s hs
  have hs : s.mem c = none := by
    unfold usbRemoveHcd at hs
    split at hs
    · split at hs
      · cases hs
        exact hdead
      · cases hs
    · exact DriverState.release_dead hs hdead
  rw [Option.bind_eq_none_iff]
  intro w hw
  obtain ⟨u, hu, hw⟩ := Option.bind_eq_some_iff.mp hw
  have hP : P (v.withDriver s) := ⟨hc, hs⟩
  have hPu : P u := releaseAll_keeps hevs hP hu
  have hPw : P w := by
    split at hw
    · cases hw
      exact hPu
    · obtain ⟨s', hs', rfl⟩ := Option.map_eq_some_iff.mp hw
      exact ⟨hPu.1, DriverState.bceDestroyCq_keeps_dead hs' hPu.2⟩
  rw [hmsgs w hPw, Option.bind_none]

end BceVhciLife

/-- The device with its command queues and nothing else. -/
def commandQueuesDriver : DriverState where
  queues qid := if qid = 0 then some 10 else if qid = 1 then some 20 else none
  mem p := if p = 10 then some ⟨0, .cq⟩ else if p = 20 then some ⟨1, .sq⟩ else none
  queueIda _ := false
  cmdCq := some 10
  cmdCmdq := some 20
  isBeingRemoved := false
  kernel k := k = .devClass .bceVhci

def freshVhci : BceVhciLife where
  toDriverState := commandQueuesDriver
  msg _ := ⟨none, none, none⟩
  evCq := none
  ev _ := ⟨none, none⟩
  tqStateWq := none
  hcd := none

/-- Every call succeeds, but there is no memory for the messages of `last`. -/
def vhciOutcome (last : Option VhciChannel) : BceVhciOutcome where
  vdev := none
  msg ch := ⟨⟨true, some (100 + ch.ctorIdx), 0⟩, ⟨true, some (200 + ch.ctorIdx), 0⟩,
    some (300 + ch.ctorIdx)⟩
  evCq := ⟨true, some 400, 0⟩
  ev ch := ⟨⟨true, some (500 + ch.ctorIdx), 0⟩,
    if last = some ch then none else some (600 + ch.ctorIdx)⟩
  tqStateWq := some 700
  hcd := some 800
  addHcd := 0

def createdVhci (last : Option VhciChannel) : Int × BceVhciLife :=
  (freshVhci.bceVhciCreate (vhciOutcome last)).getD (0, freshVhci)

theorem freshVhci_fresh : freshVhci.Fresh where
  ready := .inr ⟨20, rfl, rfl⟩
  devClass := rfl
  msg _ := rfl
  evCq := rfl
  ev _ := rfl
  tqStateWq := rfl
  hcd := rfl

theorem vhciOutcome_unused (last : Option VhciChannel) :
    freshVhci.Unused (vhciOutcome last).places where
  nodup := by
    cases last with
    | none => decide +kernel
    | some ch => cases ch <;> decide +kernel
  free := by
    have hplaces : ∀ x ∈ (vhciOutcome last).places, x ≠ .queue 10 ∧ x ≠ .queue 20 ∧
        x ≠ .object (.devClass .bceVhci) := by
      cases last with
      | none => decide +kernel
      | some ch => cases ch <;> decide +kernel
    intro r hr x hx hplace
    obtain ⟨hcq, hsq, hclass⟩ := hplaces x hx
    cases r with
    | queue p q =>
      obtain rfl := Option.some.inj hplace
      have hmem : freshVhci.mem p = some q := hr
      unfold freshVhci commandQueuesDriver at hmem
      simp only at hmem
      split at hmem
      · next hp => exact hcq (hp ▸ rfl)
      · split at hmem
        · next hp => exact hsq (hp ▸ rfl)
        · cases hmem
    | id qid => cases hplace
    | object k =>
      obtain rfl := Option.some.inj hplace
      have hk : k = .devClass .bceVhci := of_decide_eq_true hr
      exact hclass (hk ▸ rfl)

end BceDriver
