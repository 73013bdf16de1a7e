import BceDriver.Queue.Credit
import BceDriver.Queue.CmdqRecords
import BceDriver.Queue.Registry
import BceDriver.Vhci.FirmwareEvents
import BceDriver.Vhci.Slots
import BceDriver.Vhci.ControlStatus
import BceDriver.Vhci.OneElement
import BceDriver.Vhci.DataPhase
import BceDriver.Vhci.PauseResume
import BceDriver.Vhci.Directions
import BceDriver.Vhci.CommandReplies
import BceDriver.Mailbox.Exchange
import BceDriver.Audio.Replies
import BceDriver.Audio.ReplyBuffer
import BceDriver.Queue.SegmentList
import BceDriver.Audio.InitBounds
import BceDriver.Vhci.Tables
import BceDriver.Audio.OutSlots
import BceDriver.ReceivePaths
import BceDriver.Vhci.Stall
import BceDriver.Vhci.Requests
import BceDriver.Vhci.CancelRequests
import BceDriver.Vhci.GivenBack
import BceDriver.Audio.PcmPointer
import BceDriver.Audio.ReplyTags
import BceDriver.Audio.PropertyMessages
import BceDriver.Audio.ReadBounds
import BceDriver.Queue.SubmissionBuf
import BceDriver.Queue.FailedCreation
import BceDriver.Vhci.EndpointQueues
import BceDriver.Vhci.StateRequests
import BceDriver.Vhci.ReportedState
import BceDriver.Audio.Card
import BceDriver.Audio.SampleRate
import BceDriver.Vhci.UrbCreate
import BceDriver.Vhci.ResumeOutcome
import BceDriver.Vhci.DataStates
import BceDriver.Vhci.Offsets
import BceDriver.Queue.SegmentRelease
import BceDriver.Vhci.HubStatus
import BceDriver.Audio.StartIo
import BceDriver.Vhci.MessageChannel
import BceDriver.Vhci.ServiceOrder
import BceDriver.Vhci.FirmwarePause
import BceDriver.Vhci.HostMessages
import BceDriver.Vhci.HostRouting
import BceDriver.Probe.Lifetime
