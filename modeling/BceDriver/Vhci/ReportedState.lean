import BceDriver.Vhci.CallRecords
import BceDriver.Vhci.TransferRounds

/-!
# The state a command reports (`vhci/command.h`)

`bce_vhci_cmd_endpoint_set_state` copies the state out of its local result message
unless the status is `BCE_VHCI_INTERNAL_ERROR` or `BCE_VHCI_NO_POWER`. An exchange that
never writes the message, or writes one that is no reply to the command, returns an
`errno`, which is neither.

- `ExchangeOutcome.bceVhciCmdEndpointSetState`: the command, for every way its exchange
  can go and everything its local messages can hold.
- `reportsDelivered_iff`: the state comes from a message delivered for the command exactly
  where one was delivered, with the state of what was written last.
-/

namespace BceDriver

/-! ## The command -/

/-- `(enum bce_vhci_endpoint_state) res.param2` -/
def BceVhciMessage.endpointState (m : BceVhciMessage) : Nat := bceVhciEndpointState m.param2

/-- What `bce_vhci_cmd_endpoint_set_state` sends; `cmd` is what its local message holds,
whose `status` it leaves alone. -/
def setStateRequest (cmd : BceVhciMessage) (dev endpoint newState : Nat) : BceVhciMessage :=
  { cmd with
    cmd := BCE_VHCI_CMD_ENDPOINT_SET_STATE
    param1 := dev ||| endpoint <<< 8
    param2 := newState }

/-- The rest of it, after the call of `bce_vhci_command_queue_execute`: the status and
`*retState`, which held `retState`. -/
def takeState (r : Int × BceVhciMessage) (retState : Nat) : Int × Nat :=
  (r.1, CommandOutcome.takeState ⟨r.1, r.2.param2⟩ retState)

/-- `bce_vhci_cmd_endpoint_set_state`; `cmd` and `res` are what its local messages hold. -/
def ExchangeOutcome.bceVhciCmdEndpointSetState (o : ExchangeOutcome) (cmd res : BceVhciMessage)
    (dev endpoint newState retState : Nat) : Int × Nat :=
  takeState (o.execute (setStateRequest cmd dev endpoint newState) res) retState

/-- A message is delivered into the buffer for the command, and the buffer is left with
the state that message carries. -/
def DeliveredFor (req : BceVhciMessage) (ws : List CommandWrite) : Prop :=
  ∃ m, .delivered m ∈ ws ∧ m.Replies req ∧
    ∀ w ∈ ws.getLast?, w.msg.endpointState = m.endpointState

/-- Whatever the local result message holds, `*retState` is as it was or the state of a
message delivered for the command, and the same. -/
def ExchangeOutcome.ReportsDelivered (o : ExchangeOutcome) (cmd : BceVhciMessage)
    (dev endpoint newState : Nat) : Prop :=
  ∀ retState res,
    let req := setStateRequest cmd dev endpoint newState
    let r := o.bceVhciCmdEndpointSetState cmd res dev endpoint newState retState
    (r.2 = retState ∨ ∃ m, .delivered m ∈ o.writes req ∧ m.Replies req ∧ r.2 = m.endpointState) ∧
      ∀ res', (o.bceVhciCmdEndpointSetState cmd res' dev endpoint newState retState).2 = r.2

section Command

variable {o : ExchangeOutcome} {cmd : BceVhciMessage} {dev endpoint newState : Nat}

/-- An `errno` is taken for the status of a reply. -/
theorem takeState_of_neg {r : Int × BceVhciMessage} (h : r.1 < 0) (retState : Nat) :
    (takeState r retState).2 = r.2.endpointState := by
  have hinternal : (0 : Int) < BCE_VHCI_INTERNAL_ERROR := by decide
  have hpower : (0 : Int) < BCE_VHCI_NO_POWER := by decide
  exact if_pos ⟨(h.trans hinternal).ne, (h.trans hpower).ne⟩

theorem takeState_cases (r : Int × BceVhciMessage) (retState : Nat) :
    (takeState r retState).2 = retState ∨ (takeState r retState).2 = r.2.endpointState := by
  unfold takeState CommandOutcome.takeState
  dsimp only
  split
  · exact .inr rfl
  · exact .inl rfl

/-- The state is the old one or that of a message delivered for the command, if one was
delivered. -/
theorem DeliveredFor.takeState {req : BceVhciMessage} (h : DeliveredFor req (o.writes req))
    (res : BceVhciMessage) (retState : Nat) :
    (takeState (o.execute req res) retState).2 = retState ∨
      ∃ m, .delivered m ∈ o.writes req ∧ m.Replies req ∧
        (BceDriver.takeState (o.execute req res) retState).2 = m.endpointState := by
  obtain ⟨m, hm, hreply, hlast⟩ := h
  refine (takeState_cases _ retState).imp_right fun htaken => ⟨m, hm, hreply, ?_⟩
  rw [o.execute_snd] at htaken
  obtain hnil | ⟨ws, w, hws⟩ := List.eq_nil_or_concat' (o.writes req)
  · rw [hnil] at hm
    cases hm
  · rw [htaken, hws, lastWritten_concat]
    exact hlast w (by simp [hws])

/-- Without a write, the state is what the local message happened to hold. -/
theorem ExchangeOutcome.not_reportsDelivered
    (h : o.writes (setStateRequest cmd dev endpoint newState) = []) :
    ¬o.ReportsDelivered cmd dev endpoint newState := by
  intro hreports
  have hstate : ∀ res,
      (o.bceVhciCmdEndpointSetState cmd res dev endpoint newState 0).2 = res.endpointState := by
    intro res
    unfold bceVhciCmdEndpointSetState
    rw [takeState_of_neg (o.execute_unwritten h res), o.execute_snd, h, lastWritten_nil]
  have hsame := (hreports 0 ⟨0, 0, 0, 0⟩).2 ⟨0, 0, 0, 1⟩
  rw [hstate, hstate] at hsame
  cases hsame

/-- **The state a command reports** is the old one or that of a message delivered for the
command, whatever the local result message held, exactly where a message was delivered for
it and the buffer is left with the state of that one. -/
theorem reportsDelivered_iff (o : ExchangeOutcome) (cmd : BceVhciMessage)
    (dev endpoint newState : Nat) :
    o.ReportsDelivered cmd dev endpoint newState ↔
      DeliveredFor (setStateRequest cmd dev endpoint newState)
        (o.writes (setStateRequest cmd dev endpoint newState)) := by
  constructor
  · intro hreports
    obtain hnil | ⟨ws, w, hws⟩ :=
      List.eq_nil_or_concat' (o.writes (setStateRequest cmd dev endpoint newState))
    · exact absurd hreports (o.not_reportsDelivered hnil)
    have hlast : (o.writes (setStateRequest cmd dev endpoint newState)).getLast? = some w := by
      simp [hws]
    by_cases hreply : ∃ m, w = .delivered m ∧ m.Replies (setStateRequest cmd dev endpoint newState)
    · obtain ⟨m, rfl, hreply⟩ := hreply
      exact ⟨m, by simp [hws], hreply, by simp [hws, CommandWrite.msg]⟩
    · -- what was written last is taken, whatever the old state was
      have hmismatch : ¬w.msg.Replies (setStateRequest cmd dev endpoint newState) := by
        cases w with
        | delivered m => exact fun h => hreply ⟨m, rfl, h⟩
        | aborted => exact (by show ¬0 &&& 0x3FFF = 0x42 &&& 0xBFFF; decide)
      have hstate := takeState_of_neg (o.execute_mismatched hlast hmismatch default)
        (w.msg.endpointState + 1)
      rw [o.execute_snd, hws, lastWritten_concat] at hstate
      obtain ⟨hold | ⟨m, hm, hreplies, hfrom⟩, -⟩ := hreports (w.msg.endpointState + 1) default
      · exact absurd (hstate.symm.trans hold) (Nat.ne_of_lt (Nat.lt_succ_self _))
      · refine ⟨m, hm, hreplies, fun w' hw' => ?_⟩
        obtain rfl : w = w' := Option.some.inj (hlast.symm.trans hw')
        exact hstate.symm.trans hfrom
  · intro hdelivered retState res
    refine ⟨hdelivered.takeState res retState, fun res' => ?_⟩
    obtain ⟨m, hm, -⟩ := hdelivered
    unfold ExchangeOutcome.bceVhciCmdEndpointSetState
    rw [o.execute_of_writes (List.ne_nil_of_mem hm) res' res]

/-- A reply to another command is an error, and its state is taken all the same. -/
example : (ExchangeOutcome.answered (.delivered ⟨0x8040, BCE_VHCI_SUCCESS, 0, 2⟩)
    ).bceVhciCmdEndpointSetState ⟨0, 0, 0, 0⟩ ⟨0, 0, 0, 0⟩ 1 0x81 BCE_VHCI_ENDPOINT_PAUSED 0 =
      (- EIO, 2) := by
  decide

/-- A reservation that fails leaves `*retState` with what the stack held. -/
theorem setState_of_a_refused_reservation :
    ¬∀ (o : ExchangeOutcome) (cmd : BceVhciMessage) (dev endpoint newState : Nat),
      o.ReportsDelivered cmd dev endpoint newState := by
  intro h
  have hsame := (h .refused ⟨0, 0, 0, 0⟩ 1 0x81 BCE_VHCI_ENDPOINT_PAUSED 0 ⟨0, 0, 0, 0⟩).2
    ⟨0, 0, 0, 0xDEADBEEF⟩
  revert hsame
  decide

end Command

/-! ## In a run, and on a transfer queue -/

/-- In every interleaving, a command that returns after a delivery for it takes the old
state, or that of a message delivered for it. -/
theorem command_takes_delivered {ι : Type} [DecidableEq ι]
    {s : Threads ι (BceVhciCommandQueue ι) CommandThread} {h : ι → CallRecord}
    (hreach : (recordedCalls ι).Reachable ReservationsReturn (s, h)) {i : ι} {call : Nat}
    {status : Int} (hreturned : s.thread i = .returned call status)
    (hdelivered : DeliveredFor (h i).req (h i).writes) (retState : Nat) :
    (takeState (status, s.shared.res i) retState).2 = retState ∨
      ∃ m, .delivered m ∈ (h i).writes ∧ m.Replies (h i).req ∧
        (takeState (status, s.shared.res i) retState).2 = m.endpointState := by
  obtain ⟨o, hwrites, hexecute⟩ := command_outcome hreach hreturned
  rw [← hwrites] at hdelivered
  rw [← hexecute, ← hwrites]
  exact hdelivered.takeState _ retState

/-- `bce_vhci_transfer_queue_pause` and `bce_vhci_transfer_queue_resume` see the command as
it is here. -/
theorem replied_takeState (q : BceVhciTransferQueue) (r : Int × BceVhciMessage) :
    q.replied ⟨r.1, r.2.param2⟩ = { q with state := (takeState r q.state).2 } := rfl

end BceDriver
