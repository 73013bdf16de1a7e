import BceDriver.Lib.Simulation
import BceDriver.Vhci.HandlerFrame
import BceDriver.Vhci.Stall

/-!
# Paused by the firmware

`q->fw_paused` is set before the firmware's pause deactivates the queue, and cleared
after the firmware's resume, and before that of a reset. In between, cancel works
deactivate the queue and would activate it again.

- `KeepsPause`: a program that does not resume before it clears the flag.
- `Held`: a paused queue, or one the pause is about to deactivate.
- `firmware_pause_holds`: until the firmware asks for the queue to be active, or a reset
  clears the flag, the queue is not active, and no URB is started.
-/

namespace BceDriver

open FaultState

/-- The rest of a work item does not resume the queue before it clears `q->fw_paused`. -/
def KeepsPause : List WorkOp → Prop
  | [] => True
  | .setFwPaused false :: _ => True
  | .resumeCommand :: _ => False
  | .activate :: _ => False
  | _ :: ops => KeepsPause ops

/-- The queue is not active, or is about to be deactivated, and will not be resumed. -/
structure Held (s : Endpoint) : Prop where
  resuming : s.resuming = []
  inactive : s.q.active = true → ∃ ops, s.worker = .deactivate :: ops
  keeps : s.q.fwPaused = true → KeepsPause s.worker

/-- The rest of the firmware's resume. -/
inductive Unpausing : List WorkOp → Prop where
  | resuming {op : WorkOp} : op = .resumeCommand ∨ op = .activate ∨ op = .locked →
      Unpausing [op, .setFwPaused false]
  | resumed : Unpausing [.setFwPaused false]

/-- The firmware asks for the queue to be active. -/
def AsksActive (msg : BceVhciMessage) : Prop :=
  msg.cmd = BCE_VHCI_CMD_ENDPOINT_REQUEST_STATE ∧ msg.param2 = BCE_VHCI_ENDPOINT_ACTIVE

instance (msg : BceVhciMessage) : Decidable (AsksActive msg) := inferInstanceAs (Decidable (_ ∧ _))

/-- The queue is paused by the firmware, which does not resume it now. -/
def StaysPaused : EndpointAction → Endpoint → Prop
  | .startFirmware msg, s => s.q.fwPaused = true ∧ ¬AsksActive msg
  | _, s => s.q.fwPaused = true

instance : ∀ a s, Decidable (StaysPaused a s)
  | .startFirmware msg, s => inferInstanceAs (Decidable (s.q.fwPaused = true ∧ ¬AsksActive msg))
  | .enqueue .., s | .dequeue .., s | .endpointReset, s | .event _, s | .completion _, s
  | .lockStep, s | .pop, s | .leave, s | .give _, s | .startCancel .., s | .startReset, s
  | .workStep .., s | .complete .., s | .accept _, s | .async .., s =>
    inferInstanceAs (Decidable (s.q.fwPaused = true))

section Programs

variable {op : WorkOp} {ops : List WorkOp} {msg : BceVhciMessage} {a : EndpointAction}
  {s : Endpoint}

theorem StaysPaused.fwPaused (h : StaysPaused a s) : s.q.fwPaused = true := by
  cases a with
  | startFirmware => exact h.1
  | _ => exact h

theorem keepsPause_cons (hop : op ≠ .setFwPaused false) (h : KeepsPause (op :: ops)) :
    KeepsPause ops := by
  unfold KeepsPause at h
  split at h <;> simp_all

theorem KeepsPause.cons (h : KeepsPause ops) (hresume : op ≠ .resumeCommand)
    (hactivate : op ≠ .activate) : KeepsPause (op :: ops) := by
  unfold KeepsPause
  split <;> simp_all

theorem keepsPause_firmware (h : ¬AsksActive msg) : KeepsPause (firmwareOps msg) := by
  unfold firmwareOps
  split
  · next hcmd =>
    rw [if_neg fun hactive => h ⟨hcmd, hactive⟩]
    split <;> simp [KeepsPause, pauseOps]
  · split
    · split <;> simp [KeepsPause]
    · exact trivial

/-- Only the firmware's pause sets `q->fw_paused`. -/
theorem firmwareOps_pausing (h : .setFwPaused true ∈ firmwareOps msg) :
    firmwareOps msg = .setFwPaused true :: pauseOps := by
  unfold firmwareOps at h ⊢
  split
  · next hcmd =>
    rw [if_pos hcmd] at h
    split
    · next hactive => simp [hactive] at h
    · next hactive =>
      rw [if_neg hactive] at h
      split
      · rfl
      · next hpaused => simp [hpaused] at h
  · next hcmd =>
    rw [if_neg hcmd] at h
    split at h
    · split at h <;> simp at h
    · simp at h

theorem firmwareOps_active (h : AsksActive msg) :
    firmwareOps msg = [.resumeCommand, .setFwPaused false] := by
  unfold firmwareOps
  rw [if_pos h.1, if_pos h.2]

end Programs

/-! ## A step of a paused queue -/

section Held

variable {s s' : Endpoint} {a : EndpointAction} {op : WorkOp} {ops : List WorkOp}

/-- The resume loop runs only while a work item waits for it. -/
theorem Owned.not_resuming (h : Owned s) (hw : ∀ ops, s.worker ≠ .locked :: ops) :
    s.resuming = [] := by
  obtain ⟨b, hlock, hworker⟩ := h.contexts
  unfold Endpoint.resuming
  generalize s.worker = worker at hw hworker
  generalize s.lock = lock at hlock ⊢
  cases hworker with
  | locked => exact absurd rfl (hw _)
  | _ =>
    cases hlock with
    | plain hplain =>
      split
      · exact absurd (hplain _ List.mem_cons_self) id
      · rfl

theorem Held.inactive_of_ne (h : Held s) (hw : s.worker = op :: ops) (hop : op ≠ .deactivate) :
    s.q.active = false := by
  by_contra hactive
  obtain ⟨ops', hops'⟩ := h.inactive (by simpa using hactive)
  rw [hw] at hops'
  exact hop (List.cons.inj hops').1

/-- The work item goes on with the rest of its program. -/
theorem Held.next (h : Held s) (hp : s.q.fwPaused = true) (hw : s.worker = op :: ops)
    (hop : op ≠ .deactivate ∧ op ≠ .setFwPaused false) (hr : s'.resuming = [])
    (ha : s'.q.active = s.q.active) (hworker : KeepsPause ops → KeepsPause s'.worker) :
    Held s' ∧ s'.q.active = false := by
  have hinactive : s'.q.active = false := ha.trans (h.inactive_of_ne hw hop.1)
  refine ⟨⟨hr, fun hactive => ?_, fun _ => ?_⟩, hinactive⟩
  · simp [hinactive] at hactive
  · exact hworker (keepsPause_cons hop.2 (hw ▸ h.keeps hp))

theorem Held.offWork (h : Held s) (hp : s.q.fwPaused = true) (hoff : OffWork s a s')
    (hfirmware : ∀ msg, a = .startFirmware msg → s'.worker = firmwareOps msg → ¬AsksActive msg) :
    Held s' := by
  have hkeeps := h.keeps hp
  have hactive : s'.q.active = true → s.q.active = true := by
    intro ha
    rcases hoff.flags with ⟨heq, -⟩ | ⟨hf, -⟩
    · exact heq.symm.trans ha
    · simp [ha] at hf
  -- with no work item there is nothing to deactivate the queue
  have hidle (hw : s.worker = []) : s'.q.active = true → ∃ ops, s'.worker = .deactivate :: ops := by
    intro ha
    obtain ⟨ops, hops⟩ := h.inactive (hactive ha)
    rw [hw] at hops
    cases hops
  have hresuming : s'.resuming = [] := by
    by_contra hr
    exact (hoff.resuming hr).1 h.resuming
  refine ⟨hresuming, ?_, fun _ => ?_⟩
  · cases hoff.workqueue with
    | same _ hw | queued _ _ hw => exact fun ha => hw ▸ h.inactive (hactive ha)
    | unlocked _ hw =>
      rw [h.inactive_of_ne hw (by simp)] at hactive
      exact fun ha => absurd (hactive ha) (by simp)
    | cancel _ hw | reset _ hw | firmware _ hw => exact hidle hw
  · cases hoff.workqueue with
    | same _ hw | queued _ _ hw => exact hw ▸ hkeeps
    | unlocked _ hw => exact keepsPause_cons (by simp) (hw ▸ hkeeps)
    | cancel _ _ _ hw => rw [hw]; simp [KeepsPause, cancelOps, pauseOps]
    | reset _ _ hw => rw [hw]; simp [KeepsPause, resetOps]
    | firmware ha _ hw => exact hw ▸ keepsPause_firmware (hfirmware _ ha hw)

/-- After any step of the work item the queue is not active. -/
theorem Held.work (howned : Owned s) (h : Held s) (hp : s.q.fwPaused = true)
    {reply : CommandOutcome} {aborted : Nat} (hstep : s.workStep reply aborted = some s') :
    Held s' ∧ s'.q.active = false := by
  have hr := h.resuming
  cases workStep_branch hstep with
  | deactivate hops =>
    exact ⟨⟨hr, nofun, fun _ => keepsPause_cons (by simp) (hops ▸ h.keeps hp)⟩, rfl⟩
  | removePending hops | resetCommand hops | clearStalled hops =>
    exact h.next hp hops (by simp) hr rfl id
  | pauseCommand hops =>
    refine Endpoint.exec_ok (Q := fun s' => Held s' ∧ s'.q.active = false)
      (pauseCommand_spec (q := s.q)) fun r q' hq' => ?_
    obtain ⟨state, hstate⟩ := s.q.replied_eq reply
    rw [hq'.1, hstate]
    split
    · refine h.next hp hops (by simp) hr rfl fun hk => ?_
      exact (hk.cons (by simp) (by simp)).cons (by simp) (by simp)
    · exact h.next hp hops (by simp) hr rfl id
  | @flush d ops hops =>
    refine Endpoint.exec_ok (Q := fun s' => Held s' ∧ s'.q.active = false) (P := fun _ q' =>
      Held { s with q := q', worker := ops } ∧ q'.active = false) ?_ fun _ _ heff => heff
    rw [wp_flush]
    split
    · exact h.next hp hops (by simp) hr rfl id
    · exact h.next hp hops (by simp) hr rfl id
  | @remove u status ops hops =>
    refine Endpoint.exec_ok (Q := fun s' => Held s' ∧ s'.q.active = false)
      (removeBody_spec s.q u status) fun r q' hrem => ?_
    cases hrem with
    | refused hne =>
      rw [if_neg hne]
      exact h.next hp hops (by simp) hr rfl id
    | removed hu =>
      obtain ⟨v, hhas⟩ := howned.linked u hu
      rw [if_pos rfl, hhas.hcpriv]
      refine h.next hp hops (by simp) rfl rfl fun hk => ?_
      exact ((hk.cons (by simp) (by simp)).cons (by simp) (by simp)).cons (by simp) (by simp)
  | kfree hops =>
    refine Endpoint.exec_ok (Q := fun s' => Held s' ∧ s'.q.active = false)
      (howned.kfree hops) fun _ q' hq' => ?_
    subst hq'
    exact h.next hp hops (by simp) hr rfl id
  | giveback hops => exact h.next hp hops (by simp) hr rfl id
  | resumeUnlessFwPaused hops =>
    exact h.next hp hops (by simp) hr rfl fun hk => by simpa [hp] using hk
  | resumeCommand hops | activate hops =>
    have hkeeps := h.keeps hp
    rw [hops] at hkeeps
    exact absurd hkeeps id
  | returnUnlessStalled hops =>
    refine h.next hp hops (by simp) hr rfl fun hk => ?_
    dsimp only
    split
    · exact hk
    · exact trivial
  | @setFwPaused b ops hops =>
    have hinactive := h.inactive_of_ne hops (by simp)
    refine ⟨⟨hr, fun ha => ?_, fun hb => ?_⟩, hinactive⟩
    · exact absurd (hinactive.symm.trans ha) (by simp)
    · exact keepsPause_cons (by simp [show b = true from hb]) (hops ▸ h.keeps hp)
  | stall hops =>
    exact ⟨⟨hr, nofun, fun _ => keepsPause_cons (by simp) (hops ▸ h.keeps hp)⟩, rfl⟩

theorem Held.step (howned : Owned s) (h : Held s) (hstay : StaysPaused a s)
    (hactive : s.q.active = false) (hstep : Endpoint.step a s = some s') :
    Held s' ∧ s'.q.active = false := by
  by_cases ha : ∃ reply aborted, a = .workStep reply aborted
  · obtain ⟨reply, aborted, rfl⟩ := ha
    exact h.work howned hstay (step_workStep hstep)
  · have ha' : ∀ reply aborted, a ≠ .workStep reply aborted :=
      fun reply aborted heq => ha ⟨reply, aborted, heq⟩
    have hoff := step_offWork howned hstep ha'
    refine ⟨h.offWork hstay.fwPaused hoff ?_, ?_⟩
    · rintro msg rfl -
      exact hstay.2
    · rcases hoff.flags with ⟨heq, -⟩ | ⟨hf, -⟩
      · exact heq.trans hactive
      · exact hf

end Held

/-! ## Every run -/

/-- The firmware's pause goes on to deactivate the queue, and what it paused is held
unless the firmware resumes it. -/
structure FwPauseInv (s : Endpoint) : Prop where
  pausing : .setFwPaused true ∈ s.worker → s.worker = .setFwPaused true :: pauseOps
  held : s.q.fwPaused = true → Unpausing s.worker ∨ Held s

section Runs

variable {s s' : Endpoint} {a : EndpointAction} {op : WorkOp} {ops : List WorkOp}
  {reply : CommandOutcome} {aborted : Nat}

theorem FwPauseInv.not_mem_tail (h : FwPauseInv s) (hw : s.worker = op :: ops) :
    .setFwPaused true ∉ ops := by
  intro hmem
  have hpausing := h.pausing (hw ▸ List.mem_cons_of_mem _ hmem)
  rw [hw] at hpausing
  rw [(List.cons.inj hpausing).2] at hmem
  simp [pauseOps] at hmem

/-- The work item goes on with the rest of its program, and with nothing that sets
`q->fw_paused`. -/
theorem workStep_pausing (hw : s.worker = op :: ops) (hstep : s.workStep reply aborted = some s')
    (hmem : .setFwPaused true ∈ s'.worker) : s'.worker = s.worker ∨ .setFwPaused true ∈ ops := by
  have hexec {α : Type} (m : TransferM α) (k : α → BceVhciTransferQueue → Endpoint)
      (hk : ∀ a q, .setFwPaused true ∈ (k a q).worker → .setFwPaused true ∈ ops)
      (hmem : .setFwPaused true ∈ (s.exec m k).worker) :
      (s.exec m k).worker = s.worker ∨ .setFwPaused true ∈ ops :=
    Endpoint.exec_any (Q := fun s' => .setFwPaused true ∈ s'.worker →
      s'.worker = s.worker ∨ .setFwPaused true ∈ ops) (fun a q h => .inr (hk a q h))
      (fun _ _ => .inl rfl) hmem
  cases workStep_branch hstep with
  | deactivate hops | removePending hops | flush hops | kfree hops | activate hops =>
    rw [hops] at hw
    obtain ⟨-, rfl⟩ := List.cons.inj hw
    exact hexec _ _ (fun _ _ h => by simpa using h) hmem
  | giveback hops | resetCommand hops | clearStalled hops | setFwPaused hops | stall hops =>
    rw [hops] at hw
    obtain ⟨-, rfl⟩ := List.cons.inj hw
    exact .inr hmem
  | pauseCommand hops =>
    rw [hops] at hw
    obtain ⟨-, rfl⟩ := List.cons.inj hw
    refine hexec _ _ (fun status q h => ?_) hmem
    split at h
    · simpa using h
    · exact h
  | remove hops =>
    rw [hops] at hw
    obtain ⟨-, rfl⟩ := List.cons.inj hw
    refine hexec _ _ (fun r q h => ?_) hmem
    split at h
    · split at h
      · simpa using h
      · simpa using h
    · exact h
  | resumeCommand hops =>
    rw [hops] at hw
    obtain ⟨-, rfl⟩ := List.cons.inj hw
    refine hexec _ _ (fun status q h => ?_) hmem
    dsimp only at h
    split at h
    · simpa using h
    · exact h
  | resumeUnlessFwPaused hops =>
    rw [hops] at hw
    obtain ⟨-, rfl⟩ := List.cons.inj hw
    dsimp only at hmem
    split at hmem
    · exact .inr hmem
    · exact .inr (by simpa using hmem)
  | returnUnlessStalled hops =>
    rw [hops] at hw
    obtain ⟨-, rfl⟩ := List.cons.inj hw
    dsimp only at hmem
    split at hmem
    · exact .inr hmem
    · cases hmem

/-- Only one step of a work item writes `q->fw_paused`. -/
theorem workStep_fwPaused (howned : Owned s) (hstep : s.workStep reply aborted = some s')
    (hne : ∀ b ops, s.worker ≠ .setFwPaused b :: ops) : s'.q.fwPaused = s.q.fwPaused := by
  cases workStep_branch hstep with
  | pauseCommand hops =>
    refine Endpoint.exec_ok (Q := fun s' => s'.q.fwPaused = s.q.fwPaused)
      (pauseCommand_spec (q := s.q)) fun r q' hq' => ?_
    obtain ⟨state, hstate⟩ := s.q.replied_eq reply
    rw [hq'.1, hstate]
    split <;> rfl
  | resumeCommand hops =>
    refine Endpoint.exec_ok (Q := fun s' => s'.q.fwPaused = s.q.fwPaused)
      (resumeCommand_spec (q := s.q)) fun r q' hq' => ?_
    obtain ⟨state, hstate⟩ := s.q.replied_eq reply
    rw [hq'.1, hstate]
  | flush hops =>
    refine Endpoint.exec_ok (Q := fun s' => s'.q.fwPaused = s.q.fwPaused)
      (P := fun _ q' => q'.fwPaused = s.q.fwPaused) ?_ fun _ _ heff => heff
    rw [wp_flush]
    split <;> rfl
  | @remove u status ops hops =>
    refine Endpoint.exec_ok (Q := fun s' => s'.q.fwPaused = s.q.fwPaused)
      (removeBody_spec s.q u status) fun r q' hrem => ?_
    cases hrem with
    | refused hr => rw [if_neg hr]
    | removed hu =>
      obtain ⟨v, hhas⟩ := howned.linked u hu
      rw [if_pos rfl, hhas.hcpriv]
      rfl
  | kfree hops =>
    refine Endpoint.exec_ok (Q := fun s' => s'.q.fwPaused = s.q.fwPaused)
      (howned.kfree hops) fun _ q' hq' => ?_
    rw [hq']
  | setFwPaused hops => exact absurd hops (hne _ _)
  | deactivate | removePending | giveback | resumeUnlessFwPaused | activate | returnUnlessStalled
  | resetCommand | clearStalled | stall => rfl

/-- The firmware's resume goes on until it clears the flag. -/
theorem Unpausing.work (h : Unpausing s.worker) (hstep : s.workStep reply aborted = some s')
    (hp : s'.q.fwPaused = true) : Unpausing s'.worker := by
  cases workStep_branch hstep with
  | resumeCommand hops =>
    rw [hops] at h
    refine Endpoint.exec_any (Q := fun s' => Unpausing s'.worker) (fun status q => ?_)
      fun _ => hops ▸ h
    cases h with
    | resuming =>
      dsimp only
      split
      · exact .resuming (.inr (.inl rfl))
      · exact .resumed
  | activate hops =>
    rw [hops] at h
    refine Endpoint.exec_any (Q := fun s' => Unpausing s'.worker) (fun us q => ?_)
      fun _ => hops ▸ h
    cases h with
    | resuming => exact .resuming (.inr (.inr rfl))
  | setFwPaused hops =>
    rw [hops] at h
    cases h with
    | resuming hop => simp at hop
    | resumed => cases hp
  | deactivate hops | removePending hops | pauseCommand hops | flush hops | remove hops
  | kfree hops | giveback hops | resumeUnlessFwPaused hops | returnUnlessStalled hops
  | resetCommand hops | clearStalled hops | stall hops =>
    rw [hops] at h
    cases h with
    | resuming hop => simp at hop

theorem FwPauseInv.work (howned : Owned s) (h : FwPauseInv s)
    (hstep : s.workStep reply aborted = some s') : FwPauseInv s' := by
  obtain ⟨op, ops, hw⟩ : ∃ op ops, s.worker = op :: ops := by
    cases hw : s.worker with
    | nil => simp [Endpoint.workStep, hw] at hstep
    | cons op ops => exact ⟨op, ops, rfl⟩
  refine ⟨fun hmem => ?_, fun hp' => ?_⟩
  · rcases workStep_pausing hw hstep hmem with heq | hin
    · rw [heq] at hmem ⊢
      exact h.pausing hmem
    · exact absurd hin (h.not_mem_tail hw)
  · by_cases hp : s.q.fwPaused = true
    · rcases h.held hp with hun | hheld
      · exact .inl (hun.work hstep hp')
      · exact .inr (hheld.work howned hp hstep).1
    · by_cases hset : ∃ b ops, s.worker = .setFwPaused b :: ops
      · obtain ⟨b, ops, hops⟩ := hset
        simp only [Endpoint.workStep, hops, Option.some.injEq] at hstep
        subst hstep
        -- the firmware's pause deactivates the queue next
        obtain rfl : b = true := hp'
        have hpausing := h.pausing (hops ▸ List.mem_cons_self)
        obtain rfl : ops = pauseOps := by
          rw [hops] at hpausing
          exact (List.cons.inj hpausing).2
        refine .inr ⟨howned.not_resuming fun ops hl => ?_, fun _ => ⟨_, rfl⟩, fun _ => ?_⟩
        · simp [hops] at hl
        · simp [KeepsPause, pauseOps]
      · have hsame := workStep_fwPaused howned hstep fun b ops hops => hset ⟨b, ops, hops⟩
        exact absurd (hsame.symm.trans hp') hp

theorem FwPauseInv.offWork (h : FwPauseInv s) (hoff : OffWork s a s')
    (hfixed : Fixed s.q s'.q) : FwPauseInv s' := by
  refine ⟨fun hmem => ?_, fun hp => ?_⟩
  · cases hoff.workqueue with
    | same _ hw | queued _ _ hw =>
      rw [hw] at hmem ⊢
      exact h.pausing hmem
    | unlocked _ hw => exact absurd hmem (h.not_mem_tail hw)
    | cancel _ _ _ hw =>
      rw [hw] at hmem
      simp [cancelOps, pauseOps] at hmem
    | reset _ _ hw =>
      rw [hw] at hmem
      simp [resetOps] at hmem
    | firmware _ _ hw =>
      rw [hw] at hmem ⊢
      exact firmwareOps_pausing hmem
  · rw [hfixed.fwPaused] at hp
    rcases h.held hp with hun | hheld
    · cases hoff.workqueue with
      | same _ hw | queued _ _ hw => exact .inl (hw ▸ hun)
      | unlocked _ hw =>
        rw [hw] at hun
        generalize s'.worker = worker at hun ⊢
        cases hun with
        | resuming => exact .inl .resumed
      | cancel _ hw | reset _ hw | firmware _ hw =>
        rw [hw] at hun
        cases hun
    · by_cases hasks : ∃ msg, s'.worker = firmwareOps msg ∧ AsksActive msg
      · obtain ⟨msg, hw, hasks⟩ := hasks
        rw [hw, firmwareOps_active hasks]
        exact .inl (.resuming (.inl rfl))
      · exact .inr (hheld.offWork hp hoff fun msg _ hw hactive => hasks ⟨msg, hw, hactive⟩)

theorem reachable_fwPauseInv (h : endpointSystem.Reachable (fun _ _ => True) s) :
    FwPauseInv s := by
  refine StepSystem.Reachable.invariant (I := FwPauseInv) ?_ ?_ h
  · rintro s ⟨address, devAddr, qidIn, qidOut, urbs, m, w, rfl⟩
    exact ⟨nofun, nofun⟩
  · intro a s s' hreach hinv _ hstep
    have howned : Owned s := reachable_owned hreach
    by_cases ha : ∃ reply aborted, a = .workStep reply aborted
    · obtain ⟨reply, aborted, rfl⟩ := ha
      exact hinv.work howned (step_workStep hstep)
    · have ha' : ∀ reply aborted, a ≠ .workStep reply aborted :=
        fun reply aborted heq => ha ⟨reply, aborted, heq⟩
      exact hinv.offWork (step_offWork howned hstep ha') (step_fixed hstep ha')

/-- A step of a queue that is held and not active starts no URB. -/
theorem Held.startsNothing {S : Nat → Prop} (howned : Owned s) (h : Held s)
    (ha : s.q.active = false) (hparked : EveryLinked (ParkedUnless S) s.q)
    (hstep : Endpoint.step a s = some s') : EveryLinked (ParkedUnless S) s'.q := by
  have hnodup := howned.urbList_nodup
  refine hparked.step (step_spec howned hstep)
    (fun _ _ _ r q' _ _ _ heff h' => heff.parked ha h')
    (fun more q' heff => heff.parked hnodup hparked)
    (fun d ops more q' _ _ heff => heff.parked hnodup hparked)
    (fun msg q' heff => heff.parked hnodup hparked) ?_
    (fun d t t' _ _ => hparked.of_sqs rfl rfl rfl fun _ _ hv => hv)
  intro u us ops urb v q' _ hops _ _ _
  have hresuming := h.resuming
  simp [Endpoint.resuming, hops] at hresuming

/-- **What the firmware has paused stays paused.** From any state in which `q->fw_paused`
is set and no work item runs, the queue is not active, and is not made active, whatever
is enqueued, cancelled, completed or reset, until the firmware asks for it or a reset
clears the flag; and until then no URB is started, neither a new one nor a parked one. -/
theorem firmware_pause_holds (hreach : endpointSystem.Reachable (fun _ _ => True) s)
    (hpaused : s.q.fwPaused = true) (hidle : s.worker = [])
    (hsteps : endpointSystem.Steps StaysPaused s s') :
    s'.q.active = false ∧ StartsNothing s.q s'.q := by
  have hheld : Held s := by
    rcases (reachable_fwPauseInv hreach).held hpaused with hun | hheld
    · rw [hidle] at hun
      cases hun
    · exact hheld
  have hactive : s.q.active = false := by
    by_contra ha
    obtain ⟨ops, hops⟩ := hheld.inactive (by simpa using ha)
    simp [hidle] at hops
  -- along the run: reachable, held, not active, and nothing started
  suffices hall : endpointSystem.Reachable (fun _ _ => True) s' ∧ Held s' ∧
      s'.q.active = false ∧ StartsNothing s.q s'.q from hall.2.2
  induction hsteps with
  | refl => exact ⟨hreach, hheld, hactive, .refl s.q⟩
  | tail _ hnext ih =>
    obtain ⟨hreach₁, hheld₁, hactive₁, hstarts₁⟩ := ih
    obtain ⟨a, hstay, hstep⟩ := hnext
    have howned : Owned _ := reachable_owned hreach₁
    obtain ⟨hheld₂, hactive₂⟩ := hheld₁.step howned hstay hactive₁ hstep
    exact ⟨hreach₁.step trivial hstep, hheld₂, hactive₂,
      hheld₁.startsNothing howned hactive₁ hstarts₁ hstep⟩

end Runs

/-- A bulk endpoint the firmware has paused. -/
def pausedState : Endpoint :=
  endpointSystem.after (fun _ _ => True)
    [.startFirmware ⟨BCE_VHCI_CMD_ENDPOINT_REQUEST_STATE, 0, 0, BCE_VHCI_ENDPOINT_PAUSED⟩,
      .workStep ⟨0, 0⟩ 0, .workStep ⟨0, 0⟩ 0, .workStep ⟨0, 0⟩ 0,
      .workStep ⟨0, BCE_VHCI_ENDPOINT_PAUSED⟩ 0, .workStep ⟨0, 0⟩ 0, .workStep ⟨0, 0⟩ 0]
    (.fresh 0x81)

/-- Then two URBs are enqueued, and one is cancelled. -/
def pausedCancelState : Endpoint :=
  endpointSystem.after StaysPaused
    ([.enqueue 0 ⟨true, 8, 0, 0⟩ 0, .lockStep, .enqueue 1 ⟨true, 8, 0, 0⟩ 0, .lockStep,
      .dequeue 0 (-104), .startCancel 0 (-104)] ++
      List.replicate 6 (.workStep ⟨0, BCE_VHCI_ENDPOINT_PAUSED⟩ 0) ++ [.lockStep, .lockStep] ++
      List.replicate 3 (.workStep ⟨0, 0⟩ 0))
    pausedState

theorem firmware_pause_holds_of_a_run :
    pausedCancelState.q.urbList = [1] ∧ pausedCancelState.q.active = false ∧
      StartsNothing pausedState.q pausedCancelState.q :=
  ⟨by decide +kernel, firmware_pause_holds
    (.after (.of_init (Endpoint.fresh_init 0x81)) (by decide +kernel)) (by decide +kernel)
    (by decide +kernel) (.after (by decide +kernel))⟩

end BceDriver
