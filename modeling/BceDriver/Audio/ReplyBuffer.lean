import BceDriver.Audio.Messages

/-!
# A reply buffer that is used again

`aaudio_reply_alloc` sets the size of a buffer once, and `aaudio_handle_reply`
lowers it to the length of a shorter reply. No later command raises it, so the
size is the least of the capacity and the lengths of all replies copied so far.

- `aaudioCmd`: a command on a buffer, with everything that may happen to its reply.
- `aaudioCmds_size`: the size after any sequence of commands.
- `aaudio_reply_whole_iff`: the result.
-/

namespace BceDriver

/-! ## Commands -/

/-- A reply the handler looks at: it has a header and came in one slot. -/
structure AaudioReply where
  bytes : List UInt8
  header : AAUDIO_MSG_HEADER_SIZE ≤ bytes.length
  fits : bytes.length ≤ AAUDIO_BCE_QUEUE_ELEMENT_SIZE

def AaudioReply.msg (r : AaudioReply) : AaudioMsg := ⟨r.bytes.length, r.bytes⟩

/-- What comes of the exchange of a command. -/
inductive AaudioExchange where
  /-- `__aaudio_send_prepare` returns an error -/
  | unsent (status : Int) (error : status ≠ 0)
  /-- the reply is copied, and ends the wait -/
  | replied (reply : AaudioReply)
  | timedOut
  /-- the wait timed out, and the reply is copied before the entry is removed -/
  | late (reply : AaudioReply)

/-- The reply that was copied, if one was. -/
def AaudioExchange.copied : AaudioExchange → Option AaudioReply
  | .replied reply | .late reply => some reply
  | .unsent _ _ | .timedOut => none

/-- The commands that are given the buffer for their reply. -/
inductive AaudioBufCmd where
  | getProperty
  | getInputStreamList
  | getOutputStreamList
  | getDeviceList
deriving DecidableEq, Repr

/-- The status of the reader the command calls on its reply. -/
def AaudioBufCmd.read (cmd : AaudioBufCmd) (buf : AaudioMsg) : Int :=
  let accepted := match cmd with
    | .getProperty => (aaudioMsgReadGetPropertyResponse buf).isSome
    | .getInputStreamList => (aaudioMsgReadGetInputStreamListResponse buf).isSome
    | .getOutputStreamList => (aaudioMsgReadGetOutputStreamListResponse buf).isSome
    | .getDeviceList => (aaudioMsgReadGetDeviceListResponse buf).isSome
  if accepted then 0 else -EINVAL

/-- `aaudio_send_cmd_sync`: its status, and the buffer it leaves. -/
def aaudioSendCmdSync (e : AaudioExchange) (buf : AaudioMsg) : Int × AaudioMsg :=
  match e with
  | .unsent status _ => (status, buf)
  | .replied reply => (0, aaudioCopy reply.msg buf)
  | .timedOut => (-ETIMEDOUT, buf)
  | .late reply => (-ETIMEDOUT, aaudioCopy reply.msg buf)

/-- A command with a buffer for its reply: `CMD_SEND_REQUEST`, then the reader. -/
def aaudioCmd (c : AaudioBufCmd × AaudioExchange) (buf : AaudioMsg) : Int × AaudioMsg :=
  let sent := aaudioSendCmdSync c.2 buf
  (if sent.1 = 0 then c.1.read sent.2 else sent.1, sent.2)

/-- The memory `kmalloc` returns for a buffer, with whatever it contains. -/
abbrev ReplyMemory : Type := { mem : List UInt8 // mem.length = AAUDIO_BCE_QUEUE_ELEMENT_SIZE }

def aaudioReplyAlloc (mem : ReplyMemory) : AaudioMsg := ⟨AAUDIO_BCE_QUEUE_ELEMENT_SIZE, mem⟩

/-- The buffer after commands one after the other. -/
def aaudioCmds : List (AaudioBufCmd × AaudioExchange) → AaudioMsg → AaudioMsg
  | [], buf => buf
  | c :: cmds, buf => aaudioCmds cmds (aaudioCmd c buf).2

/-- The replies that were copied. -/
def copiedReplies (cmds : List (AaudioBufCmd × AaudioExchange)) : List AaudioReply :=
  cmds.filterMap fun c => c.2.copied

/-- The buffer holds these bytes, and has their number as its size. -/
def AaudioMsg.Holds (buf : AaudioMsg) (bytes : List UInt8) : Prop :=
  buf.size = bytes.length ∧ buf.data.take buf.size = bytes

/-! ## The size -/

theorem aaudioCopy_size (reply msg : AaudioMsg) :
    (aaudioCopy reply msg).size = min reply.size msg.size := by
  unfold aaudioCopy
  simp only
  split <;> omega

/-- A reply arrives whole exactly if the size the buffer has left is enough. -/
theorem holds_copy_iff (r : AaudioReply) (buf : AaudioMsg) :
    (aaudioCopy r.msg buf).Holds r.bytes ↔ r.bytes.length ≤ buf.size := by
  have hsize : (aaudioCopy r.msg buf).size = min r.bytes.length buf.size := aaudioCopy_size _ _
  constructor
  · rintro ⟨hlen, -⟩
    omega
  · intro hle
    have hlen : (aaudioCopy r.msg buf).size = r.bytes.length := by omega
    refine ⟨hlen, ?_⟩
    have hdata : (aaudioCopy r.msg buf).data =
        r.bytes.take (aaudioCopy r.msg buf).size ++ buf.data.drop (aaudioCopy r.msg buf).size := rfl
    rw [hdata, hlen, List.take_length, List.take_left]

/-- A command leaves the size it found, or that of a shorter reply. -/
theorem aaudioCmd_size (c : AaudioBufCmd × AaudioExchange) (buf : AaudioMsg) (n : Nat) :
    n ≤ (aaudioCmd c buf).2.size ↔
      n ≤ buf.size ∧ ∀ r, c.2.copied = some r → n ≤ r.bytes.length := by
  obtain ⟨cmd, e⟩ := c
  have hcopy : ∀ r : AaudioReply, n ≤ (aaudioCopy r.msg buf).size ↔
      n ≤ buf.size ∧ ∀ r', some r = some r' → n ≤ r'.bytes.length := by
    intro r
    rw [aaudioCopy_size, le_min_iff, and_comm]
    refine and_congr_right fun _ => ⟨?_, fun h => h r rfl⟩
    rintro hle r' heq
    cases heq
    exact hle
  cases e with
  | unsent | timedOut => exact ⟨fun h => ⟨h, nofun⟩, fun h => h.1⟩
  | replied r | late r => exact hcopy r

/-- **The size a sequence of commands leaves**: at least `n` exactly if it was and
every reply copied on the way has `n` bytes. -/
theorem aaudioCmds_size (cmds : List (AaudioBufCmd × AaudioExchange)) (buf : AaudioMsg) (n : Nat) :
    n ≤ (aaudioCmds cmds buf).size ↔
      n ≤ buf.size ∧ ∀ r ∈ copiedReplies cmds, n ≤ r.bytes.length := by
  induction cmds generalizing buf with
  | nil => simp [aaudioCmds, copiedReplies]
  | cons c cmds ih =>
    have hcopied : (∀ r ∈ copiedReplies (c :: cmds), n ≤ r.bytes.length) ↔
        (∀ r, c.2.copied = some r → n ≤ r.bytes.length) ∧
          ∀ r ∈ copiedReplies cmds, n ≤ r.bytes.length := by
      simp only [copiedReplies, List.mem_filterMap, List.mem_cons]
      constructor
      · intro h
        exact ⟨fun r hr => h r ⟨c, .inl rfl, hr⟩, fun r ⟨d, hd, hr⟩ => h r ⟨d, .inr hd, hr⟩⟩
      · rintro ⟨hc, hcmds⟩ r ⟨d, rfl | hd, hr⟩
        · exact hc r hr
        · exact hcmds r ⟨d, hd, hr⟩
    rw [aaudioCmds, ih, aaudioCmd_size, hcopied, and_assoc]

/-! ## Whole replies -/

/-- A command that succeeds has had its reply copied. -/
theorem aaudioCmd_replied {c : AaudioBufCmd × AaudioExchange} {buf : AaudioMsg}
    (hok : (aaudioCmd c buf).1 = 0) :
    ∃ r, c.2 = .replied r ∧ (aaudioCmd c buf).2 = aaudioCopy r.msg buf := by
  obtain ⟨cmd, e⟩ := c
  cases e with
  | replied r => exact ⟨r, rfl, rfl⟩
  | unsent status herror =>
    have hstatus : (aaudioCmd (cmd, .unsent status herror) buf).1 = status := if_neg herror
    exact absurd (hstatus ▸ hok) herror
  | timedOut | late =>
    have hstatus : -ETIMEDOUT = 0 := hok
    exact absurd hstatus (by decide)

/-- **Whole replies.** After any sequence of commands on a buffer of
`aaudio_reply_alloc`, a command that succeeds leaves the whole of its reply in the
buffer, with its length as the size, exactly if no reply copied before was shorter. -/
theorem aaudio_reply_whole_iff (mem : ReplyMemory) (cmds : List (AaudioBufCmd × AaudioExchange))
    (c : AaudioBufCmd × AaudioExchange)
    (hok : (aaudioCmd c (aaudioCmds cmds (aaudioReplyAlloc mem))).1 = 0) :
    ∃ r, c.2 = .replied r ∧
      ((aaudioCmd c (aaudioCmds cmds (aaudioReplyAlloc mem))).2.Holds r.bytes ↔
        ∀ r' ∈ copiedReplies cmds, r.bytes.length ≤ r'.bytes.length) := by
  obtain ⟨r, hr, hbuf⟩ := aaudioCmd_replied hok
  refine ⟨r, hr, ?_⟩
  rw [hbuf, holds_copy_iff, aaudioCmds_size]
  exact ⟨fun h => h.2, fun h => ⟨r.fits, h⟩⟩

/-! ## A short reply and a long one -/

/-- The reply with a UID of one byte. -/
def uidReply : AaudioReply where
  bytes := aaudioTag 1 ++ [2] ++ List.replicate 8 0 ++ [8, 0, 0, 0] ++ List.replicate 24 0 ++
    [1, 0, 0, 0, 0, 0, 0, 0, 0x53]
  header := by decide
  fits := by decide

/-- The reply with a list of three streams. -/
def streamsReply : AaudioReply where
  bytes := aaudioTag 2 ++ [2] ++ List.replicate 8 0 ++ [25, 0, 0, 0, 0, 0, 0, 0] ++
    [3, 0, 0, 0, 0, 0, 0, 0] ++ List.replicate 24 1
  header := by decide
  fits := by decide

def zeroMemory : ReplyMemory :=
  ⟨List.replicate AAUDIO_BCE_QUEUE_ELEMENT_SIZE 0, List.length_replicate⟩

/-- The list of streams behind the UID loses its end. -/
theorem streams_behind_uid :
    (aaudioCmd (.getInputStreamList, .replied streamsReply)
        (aaudioCmds [(.getProperty, .replied uidReply)] (aaudioReplyAlloc zeroMemory))).1 = 0 ∧
      ¬(aaudioCmd (.getInputStreamList, .replied streamsReply)
        (aaudioCmds [(.getProperty, .replied uidReply)] (aaudioReplyAlloc zeroMemory))).2.Holds
          streamsReply.bytes := by
  refine ⟨by decide +kernel, fun hwhole => ?_⟩
  have hle := (holds_copy_iff streamsReply _).mp hwhole
  have hshort := ((aaudioCmds_size _ _ _).mp hle).2 uidReply (by simp [copiedReplies,
    AaudioExchange.copied])
  exact absurd hshort (by decide)

/-- The UID behind the list of streams arrives whole. -/
theorem aaudio_reply_whole_of_uid :
    ∃ r, AaudioExchange.replied uidReply = .replied r ∧
      ((aaudioCmd (.getProperty, .replied uidReply)
        (aaudioCmds [(.getInputStreamList, .replied streamsReply)]
          (aaudioReplyAlloc zeroMemory))).2.Holds r.bytes ↔
        ∀ r' ∈ copiedReplies [(.getInputStreamList, .replied streamsReply)],
          r.bytes.length ≤ r'.bytes.length) :=
  aaudio_reply_whole_iff zeroMemory [(.getInputStreamList, .replied streamsReply)]
    (.getProperty, .replied uidReply) (by decide +kernel)

end BceDriver
