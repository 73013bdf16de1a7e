import BceDriver.Vhci.CallRecords
import BceDriver.Vhci.Controller

/-!
# What a hub request reports (`vhci/vhci.c`)

`bce_vhci_hub_control` returns an `errno`, or the number of bytes it replied with. For
most requests it returns what the command it sends reports, which is an `errno`, or the
status the controller answered with.

- `ExchangeOutcome.reply` is the message that is taken for the answer to a command, if
  any: `execute_reply` is what the exchange returns of it.
- `hubCommand` is the command a request sends: `hubControl_spec`.
- `hub_status_iff`: a request reports success and failure as it should exactly if no
  status but `BCE_VHCI_SUCCESS` is answered.
-/

namespace BceDriver

/-! ## The port commands (`vhci/command.h`) -/

def BCE_VHCI_CMD_PORT_POWER_ON : Nat := 0x10
def BCE_VHCI_CMD_PORT_POWER_OFF : Nat := 0x11
def BCE_VHCI_CMD_PORT_RESUME : Nat := 0x12
def BCE_VHCI_CMD_PORT_SUSPEND : Nat := 0x13
def BCE_VHCI_CMD_PORT_RESET : Nat := 0x14
def BCE_VHCI_CMD_PORT_DISABLE : Nat := 0x15

/-- What a port command sends; `cmd` is what its local message holds, whose other fields
it leaves alone. -/
def PortCommand.request (cmd : BceVhciMessage) (port : Nat) : PortCommand → BceVhciMessage
  | .powerOn => { cmd with cmd := BCE_VHCI_CMD_PORT_POWER_ON, param1 := port }
  | .powerOff => { cmd with cmd := BCE_VHCI_CMD_PORT_POWER_OFF, param1 := port }
  | .resume => { cmd with cmd := BCE_VHCI_CMD_PORT_RESUME, param1 := port }
  | .suspend => { cmd with cmd := BCE_VHCI_CMD_PORT_SUSPEND, param1 := port }
  | .reset timeout =>
    { cmd with cmd := BCE_VHCI_CMD_PORT_RESET, param1 := port, param2 := timeout }
  | .disable => { cmd with cmd := BCE_VHCI_CMD_PORT_DISABLE, param1 := port }
  | .status clearFlags =>
    { cmd with
      cmd := BCE_VHCI_CMD_PORT_STATUS
      param1 := port
      param2 := (clearFlags &&& 0x560000).toNat }

/-- A port command; `cmd` and `res` are what its local messages hold. -/
def ExchangeOutcome.portCommand (o : ExchangeOutcome) (cmd res : BceVhciMessage) (port : Nat)
    (c : PortCommand) : CommandOutcome :=
  let r := o.execute (c.request cmd port) res
  ⟨r.1, r.2.param2⟩

/-! ## The answer to a command -/

/-- The reply that is taken for the answer to a request: in time, or in place of the
answer to its cancellation. -/
def ExchangeOutcome.reply : ExchangeOutcome → BceVhciMessage → Option BceVhciMessage
  | .refused, _ => none
  | .answered w, req => if w.msg.cmd &&& 0x3FFF = req.cmd &&& 0xBFFF then some w.msg else none
  | .timedOut _ o, req =>
    if req.cmd &&& 0x4000 = 0 then
      (o.reply (cancelRequest req)).filter fun m => m.cmd &&& 0x4000 = 0
    else none

/-- What the status of a reply becomes. -/
def replyStatus (m : BceVhciMessage) : Int :=
  if m.status = BCE_VHCI_SUCCESS then 0 else m.status

section Reply

variable {req res m : BceVhciMessage}

theorem replyStatus_nonneg (m : BceVhciMessage) : 0 ≤ replyStatus m := by
  unfold replyStatus
  split
  · exact Int.le_refl 0
  · exact Int.natCast_nonneg _

/-- The reply is what is left in the buffer. -/
theorem ExchangeOutcome.reply_snd (o : ExchangeOutcome) (h : o.reply req = some m)
    (res : BceVhciMessage) : (o.execute req res).2 = m := by
  induction o generalizing req res with
  | refused => cases h
  | answered w =>
    unfold reply at h
    split at h
    · exact Option.some.inj h
    · cases h
  | timedOut late o ih =>
    unfold reply at h
    unfold execute
    split
    · next hcmd =>
      rw [if_pos hcmd] at h
      rw [bceVhciCommandQueueCancel_snd]
      exact ih (Option.filter_eq_some_iff.mp h).1 _
    · next hcmd =>
      rw [if_neg hcmd] at h
      cases h

/-- **What an exchange returns**: the status of the reply, or an `errno` without one. -/
theorem ExchangeOutcome.execute_reply (o : ExchangeOutcome) (req res : BceVhciMessage) :
    (∀ m, o.reply req = some m → (o.execute req res).1 = replyStatus m) ∧
      (o.reply req = none → (o.execute req res).1 < 0) := by
  induction o generalizing req res with
  | refused => exact ⟨fun m hm => absurd hm (by simp [reply]), fun _ => (by decide : -EAGAIN < 0)⟩
  | answered w =>
    unfold reply execute commandReplyStatus
    split
    · next hcmd =>
      refine ⟨fun m hm => ?_, by simp⟩
      obtain rfl := Option.some.inj hm
      exact if_neg (fun hne => hne hcmd)
    · exact ⟨by simp, fun _ => by simp [ EIO]⟩
  | timedOut late o ih =>
    unfold reply execute
    split
    · next hcmd =>
      obtain ⟨hsome, hnone⟩ := ih (cancelRequest req) (lastWritten late.toList res)
      cases hreply : o.reply (cancelRequest req) with
      | none => exact ⟨by simp, fun _ => bceVhciCommandQueueCancel_neg (hnone hreply)⟩
      | some m =>
        -- the cancellation is answered: by the reply to the request, or by its own
        have hstatus := hsome m hreply
        have hres := o.reply_snd hreply (lastWritten late.toList res)
        have hnonneg := replyStatus_nonneg m
        have htimeout : replyStatus m ≠ -ETIMEDOUT := by
          intro h
          have hneg : -ETIMEDOUT < 0 := by decide
          omega
        unfold bceVhciCommandQueueCancel
        rw [hstatus, hres, if_neg htimeout]
        by_cases hflag : m.cmd &&& 0x4000 = 0
        · rw [if_pos hflag, Option.filter_some_pos (by simpa using hflag)]
          refine ⟨fun m' hm' => ?_, by simp⟩
          obtain rfl := Option.some.inj hm'
          exact hstatus
        · rw [if_neg hflag, Option.filter_some_neg (by simpa using hflag)]
          exact ⟨by simp, fun _ => (by decide : -ETIMEDOUT < 0)⟩
    · exact ⟨by simp, fun _ => (by decide : -ETIMEDOUT < 0)⟩

end Reply

/-! ## Hub requests -/

/-- The requests that are handled. -/
def HubRequest.Served (r : HubRequest) : Prop :=
  match r.typeReq with
  | .getHubDescriptor => 15 ≤ r.wLength
  | .getHubStatus | .getPortStatus => 4 ≤ r.wLength
  | .setPortFeature =>
    r.wValue = USB_PORT_FEAT_POWER ∨ r.wValue = USB_PORT_FEAT_RESET ∨
      r.wValue = USB_PORT_FEAT_SUSPEND
  | .clearPortFeature =>
    r.wValue = USB_PORT_FEAT_ENABLE ∨ r.wValue = USB_PORT_FEAT_POWER ∨
      r.wValue = USB_PORT_FEAT_C_CONNECTION ∨ r.wValue = USB_PORT_FEAT_C_RESET ∨
      r.wValue = USB_PORT_FEAT_SUSPEND
  | .other _ => False

/-- The command a request sends, if it sends one. -/
def hubCommand (r : HubRequest) (s : BceVhci) : Option PortCommand :=
  match r.typeReq with
  | .getPortStatus => if 4 ≤ r.wLength then some (.status 0) else none
  | .setPortFeature =>
    if r.wValue = USB_PORT_FEAT_POWER then some .powerOn
    else if r.wValue = USB_PORT_FEAT_RESET then
      if hasBit s.portResetMask r.wIndex then none else some (.reset r.wValue)
    else if r.wValue = USB_PORT_FEAT_SUSPEND then some .suspend
    else none
  | .clearPortFeature =>
    if r.wValue = USB_PORT_FEAT_ENABLE then some .disable
    else if r.wValue = USB_PORT_FEAT_POWER then some .powerOff
    else if r.wValue = USB_PORT_FEAT_C_CONNECTION then some (.status 0x40000)
    else if r.wValue = USB_PORT_FEAT_SUSPEND then some .resume
    else none
  | .getHubDescriptor | .getHubStatus | .other _ => none

/-- The request, with what comes of its command by an exchange that goes as `o` says. -/
def HubRequest.exchanged (r : HubRequest) (o : ExchangeOutcome) (cmd res : BceVhciMessage)
    (s : BceVhci) : HubRequest :=
  match hubCommand r s with
  | none => r
  | some c => { r with outcome := o.portCommand cmd res (r.wIndex % 256) c }

section Requests

variable {r : HubRequest} {s : BceVhci}

/-- What a request that is handled comes to, as `handled` of `bce_vhci_hub_control`. -/
structure HubHandled (r : HubRequest) (s : BceVhci) (out : HubReply × BceVhci) : Prop where
  sent : out.2.sent = s.sent ++ (hubCommand r s).toList.map fun c => (c, r.wIndex % 256)
  status : out.1.status = if (hubCommand r s).isSome then r.outcome.status else 0

theorem HubHandled.of_command {c : PortCommand} {out : HubReply × BceVhci}
    (hc : hubCommand r s = some c) (hsent : out.2.sent = s.sent ++ [(c, r.wIndex % 256)])
    (hstatus : out.1.status = r.outcome.status) : HubHandled r s out where
  sent := by simp [hc, hsent]
  status := by simp [hc, hstatus]

theorem HubHandled.of_none {out : HubReply × BceVhci} (hc : hubCommand r s = none)
    (hsent : out.2.sent = s.sent) (hstatus : out.1.status = 0) : HubHandled r s out where
  sent := by simp [hc, hsent]
  status := by simp [hc, hstatus]

theorem hubSetPortFeature_spec (htype : r.typeReq = .setPortFeature) :
    (r.Served → ∃ out, hubSetPortFeature r s = some out ∧ HubHandled r s out) ∧
      (¬r.Served → hubCommand r s = none ∧ hubSetPortFeature r s = none) := by
  unfold hubSetPortFeature HubRequest.Served
  rw [htype]
  refine ⟨?_, fun h => ?_⟩
  · rintro (hvalue | hvalue | hvalue) <;> rw [hvalue]
    · refine ⟨_, rfl, .of_command (c := .powerOn) (by simp [hubCommand, htype, hvalue]) ?_ rfl⟩
      dsimp only
      split <;> rfl
    · by_cases hbit : hasBit s.portResetMask r.wIndex = true
      · refine ⟨_, if_pos hbit, .of_none ?_ rfl rfl⟩
        simp [hubCommand, htype, hvalue, hbit, USB_PORT_FEAT_POWER, USB_PORT_FEAT_RESET]
      · refine ⟨_, if_neg hbit, .of_command (c := .reset USB_PORT_FEAT_RESET) ?_ rfl rfl⟩
        simp [hubCommand, htype, hvalue, hbit, USB_PORT_FEAT_POWER, USB_PORT_FEAT_RESET]
    · refine ⟨_, rfl, .of_command (c := .suspend) ?_ rfl rfl⟩
      simp [hubCommand, htype, hvalue, USB_PORT_FEAT_POWER, USB_PORT_FEAT_RESET,
        USB_PORT_FEAT_SUSPEND]
  · obtain ⟨hpower, h⟩ := not_or.mp h
    obtain ⟨hreset, hsuspend⟩ := not_or.mp h
    simp [hubCommand, htype, hpower, hreset, hsuspend]

theorem hubClearPortFeature_spec (htype : r.typeReq = .clearPortFeature) :
    (r.Served → ∃ out, hubClearPortFeature r s = some out ∧ HubHandled r s out) ∧
      (¬r.Served → hubCommand r s = none ∧ hubClearPortFeature r s = none) := by
  unfold hubClearPortFeature HubRequest.Served
  rw [htype]
  refine ⟨?_, fun h => ?_⟩
  · rintro (hvalue | hvalue | hvalue | hvalue | hvalue) <;> rw [hvalue]
    · refine ⟨_, rfl, .of_command (c := .disable) ?_ rfl rfl⟩
      simp [hubCommand, htype, hvalue]
    · refine ⟨_, rfl, .of_command (c := .powerOff) ?_ ?_ rfl⟩
      · simp [hubCommand, htype, hvalue, USB_PORT_FEAT_ENABLE, USB_PORT_FEAT_POWER]
      · dsimp only
        split <;> rfl
    · refine ⟨_, rfl, .of_command (c := .status 0x40000) ?_ rfl rfl⟩
      simp [hubCommand, htype, hvalue, USB_PORT_FEAT_ENABLE, USB_PORT_FEAT_POWER,
        USB_PORT_FEAT_C_CONNECTION]
    · refine ⟨_, rfl, .of_none ?_ rfl rfl⟩
      simp [hubCommand, htype, hvalue, USB_PORT_FEAT_ENABLE, USB_PORT_FEAT_POWER,
        USB_PORT_FEAT_C_CONNECTION, USB_PORT_FEAT_C_RESET, USB_PORT_FEAT_SUSPEND]
    · refine ⟨_, rfl, .of_command (c := .resume) ?_ rfl rfl⟩
      simp [hubCommand, htype, hvalue, USB_PORT_FEAT_ENABLE, USB_PORT_FEAT_POWER,
        USB_PORT_FEAT_C_CONNECTION, USB_PORT_FEAT_SUSPEND]
  · obtain ⟨henable, h⟩ := not_or.mp h
    obtain ⟨hpower, h⟩ := not_or.mp h
    obtain ⟨hconnection, h⟩ := not_or.mp h
    obtain ⟨hreset, hsuspend⟩ := not_or.mp h
    simp [hubCommand, htype, henable, hpower, hconnection, hreset, hsuspend]

/-- **What a request sends**, and what it returns. -/
theorem hubControl_spec (r : HubRequest) (s : BceVhci) :
    (r.Served → HubHandled r s (bceVhciHubControl r s)) ∧
      (¬r.Served → hubCommand r s = none ∧ bceVhciHubControl r s = (⟨- EIO, .none⟩, s)) := by
  unfold bceVhciHubControl
  cases htype : r.typeReq with
  | getHubDescriptor =>
    have hc : hubCommand r s = none := by simp [hubCommand, htype]
    simp only [HubRequest.Served, htype]
    refine ⟨fun h => ?_, fun h => ⟨hc, by simp [h]⟩⟩
    rw [if_pos h]
    exact .of_none hc rfl rfl
  | getHubStatus =>
    have hc : hubCommand r s = none := by simp [hubCommand, htype]
    simp only [HubRequest.Served, htype]
    refine ⟨fun h => ?_, fun h => ⟨hc, by simp [h]⟩⟩
    rw [if_pos h]
    exact .of_none hc rfl rfl
  | getPortStatus =>
    simp only [HubRequest.Served, htype]
    refine ⟨fun h => ?_, fun h => ⟨by simp [hubCommand, htype, h], by simp [h]⟩⟩
    have hc : hubCommand r s = some (.status 0) := by simp [hubCommand, htype, h]
    rw [if_pos h]
    by_cases hstatus : r.outcome.status = 0
    · rw [if_neg (not_not.mpr hstatus)]
      exact .of_command hc rfl hstatus.symm
    · rw [if_pos hstatus]
      exact .of_command hc rfl rfl
  | setPortFeature =>
    obtain ⟨hserved, hnot⟩ := hubSetPortFeature_spec (s := s) htype
    refine ⟨fun h => ?_, fun h => ?_⟩
    · obtain ⟨out, hout, hhandled⟩ := hserved h
      simpa only [hout, Option.getD_some] using hhandled
    · simp [hnot h]
  | clearPortFeature =>
    obtain ⟨hserved, hnot⟩ := hubClearPortFeature_spec (s := s) htype
    refine ⟨fun h => ?_, fun h => ?_⟩
    · obtain ⟨out, hout, hhandled⟩ := hserved h
      simpa only [hout, Option.getD_some] using hhandled
    · simp [hnot h]
  | other typeReq =>
    refine ⟨fun h => ?_, fun _ => ⟨by simp [hubCommand, htype], rfl⟩⟩
    simp [HubRequest.Served, htype] at h

end Requests

/-! ## The result -/

section Result

variable (r : HubRequest) (o : ExchangeOutcome) (cmd res : BceVhciMessage) (s : BceVhci)

/-- What `bce_vhci_hub_control` returns, when the exchange of its command goes as `o`
says. -/
def HubRequest.result : Int := (bceVhciHubControl (r.exchanged o cmd res s) s).1.status

/-- Every command that was sent was answered with `BCE_VHCI_SUCCESS`. -/
def HubRequest.Succeeds : Prop :=
  ∀ c ∈ hubCommand r s, ∃ m ∈ o.reply (c.request cmd (r.wIndex % 256)),
    m.status = BCE_VHCI_SUCCESS

/-- No command that was sent was answered with another status. -/
def HubRequest.Unopposed : Prop :=
  ∀ c ∈ hubCommand r s, ∀ m ∈ o.reply (c.request cmd (r.wIndex % 256)),
    m.status = BCE_VHCI_SUCCESS

variable {r o cmd res s}

theorem result_of_not_served (h : ¬r.Served) :
    hubCommand r s = none ∧ r.result o cmd res s = - EIO := by
  obtain ⟨hc, hcontrol⟩ := (hubControl_spec r s).2 h
  refine ⟨hc, ?_⟩
  unfold HubRequest.result HubRequest.exchanged
  rw [hc, hcontrol]

theorem result_of_none (h : r.Served) (hc : hubCommand r s = none) :
    r.result o cmd res s = 0 := by
  have hstatus := ((hubControl_spec r s).1 h).status
  rw [hc] at hstatus
  unfold HubRequest.result HubRequest.exchanged
  rw [hc]
  exact hstatus

theorem result_of_command (h : r.Served) {c : PortCommand} (hc : hubCommand r s = some c) :
    r.result o cmd res s = (o.execute (c.request cmd (r.wIndex % 256)) res).1 := by
  let r' : HubRequest := { r with outcome := o.portCommand cmd res (r.wIndex % 256) c }
  have hc' : hubCommand r' s = some c := hc
  have hstatus := ((hubControl_spec r' s).1 h).status
  rw [hc'] at hstatus
  unfold HubRequest.result HubRequest.exchanged
  rw [hc]
  exact hstatus

/-- A handled request returns 0 for success, and an `errno` for anything else, exactly if
no other status is answered. -/
theorem result_iff_of_served (h : r.Served) :
    (r.Succeeds o cmd s → r.result o cmd res s = 0) ∧
        (¬r.Succeeds o cmd s → r.result o cmd res s < 0) ↔ r.Unopposed o cmd s := by
  cases hc : hubCommand r s with
  | none =>
    have hsucceeds : r.Succeeds o cmd s := by simp [HubRequest.Succeeds, hc]
    have hunopposed : r.Unopposed o cmd s := by simp [HubRequest.Unopposed, hc]
    simp [hsucceeds, hunopposed, result_of_none h hc]
  | some c =>
    obtain ⟨hsome, hnone⟩ := o.execute_reply (c.request cmd (r.wIndex % 256)) res
    simp only [HubRequest.Succeeds, HubRequest.Unopposed, hc, result_of_command h hc,
      Option.mem_def, Option.some.injEq, forall_eq']
    cases hreply : o.reply (c.request cmd (r.wIndex % 256)) with
    | none => simp [hnone hreply]
    | some m =>
      have hstatus := hsome m hreply
      by_cases hm : m.status = BCE_VHCI_SUCCESS
      · simp [hm, hstatus, replyStatus]
      · have hnonneg := replyStatus_nonneg m
        simp only [Option.some.injEq, exists_eq_left', hm, false_implies, not_false_eq_true,
          forall_const, true_and, forall_eq', iff_false, hstatus]
        omega

/-- **The result of a hub request.** For every request, state of the hub, and way the
exchange of its command can go: the request returns 0 if it is handled and every command it
sent was answered with success, and an `errno` otherwise, exactly if no command is
answered with another status. A request that is not handled sends nothing and returns an
`errno`, so that without the first condition it has to be handled, too. -/
theorem hub_result_iff (r : HubRequest) (o : ExchangeOutcome) (cmd res : BceVhciMessage)
    (s : BceVhci) :
    ((r.Served ∧ r.Succeeds o cmd s → r.result o cmd res s = 0) ∧
        (¬(r.Served ∧ r.Succeeds o cmd s) → r.result o cmd res s < 0) ↔
      r.Unopposed o cmd s) ∧
    ((r.Succeeds o cmd s → r.result o cmd res s = 0) ∧
        (¬r.Succeeds o cmd s → r.result o cmd res s < 0) ↔
      r.Served ∧ r.Unopposed o cmd s) := by
  by_cases h : r.Served
  · simp only [h, true_and]
    exact ⟨result_iff_of_served h, result_iff_of_served h⟩
  · obtain ⟨hc, hresult⟩ := @result_of_not_served r o cmd res s h
    have hsucceeds : r.Succeeds o cmd s := by simp [HubRequest.Succeeds, hc]
    have hunopposed : r.Unopposed o cmd s := by simp [HubRequest.Unopposed, hc]
    simp [h, hresult, hsucceeds, hunopposed, EIO]

/-- Port 1 is to be powered, and the controller answers with an internal error. -/
def powerRequest : HubRequest := ⟨.setPortFeature, USB_PORT_FEAT_POWER, 1, 0, ⟨0, 0⟩⟩

def powerRefused : ExchangeOutcome :=
  .answered (.delivered ⟨BCE_VHCI_CMD_PORT_POWER_ON ||| 0x8000, BCE_VHCI_INTERNAL_ERROR, 1, 0⟩)

/-- The request returns 7, the status of the reply. -/
theorem hub_result_of_a_failed_command :
    powerRequest.result powerRefused default default .zero = 7 ∧
      ¬∀ (r : HubRequest) (o : ExchangeOutcome) (cmd res : BceVhciMessage) (s : BceVhci),
        (r.Served ∧ r.Succeeds o cmd s → r.result o cmd res s = 0) ∧
          (¬(r.Served ∧ r.Succeeds o cmd s) → r.result o cmd res s < 0) := by
  have hseven : powerRequest.result powerRefused default default .zero = 7 := by decide
  refine ⟨hseven, fun h => ?_⟩
  obtain ⟨hzero, hneg⟩ := h powerRequest powerRefused default default .zero
  rw [hseven] at hzero hneg
  exact absurd (hneg fun hgood => absurd (hzero hgood) (by decide)) (by decide)

/-- In every interleaving a command goes as some outcome says, so that this is what the
request that sent it returns. -/
theorem hub_result_in_a_run {ι : Type} [DecidableEq ι]
    {t : Threads ι (BceVhciCommandQueue ι) CommandThread} {h : ι → CallRecord}
    (hreach : (recordedCalls ι).Reachable ReservationsReturn (t, h)) {i : ι} {call : Nat}
    {status : Int} (hreturned : t.thread i = .returned call status) {c : PortCommand}
    (hserved : r.Served) (hc : hubCommand r s = some c)
    (hreq : (h i).req = c.request cmd (r.wIndex % 256)) :
    ∃ o : ExchangeOutcome, o.writes (h i).req = (h i).writes ∧
      r.result o cmd (h i).res s = status := by
  obtain ⟨o, hwrites, hexecute⟩ := command_outcome hreach hreturned
  refine ⟨o, hwrites, ?_⟩
  rw [result_of_command hserved hc, ← hreq, hexecute]

end Result

end BceDriver
