import BceDriver.Audio.Messages

/-!
# How far the readers read (`audio/protocol.c`)

The readers of messages as programs over the reads they make: over `AaudioMsg.reads`
a read returns what is in the slot, over `AaudioMsg.readsWithin` it fails behind the
bytes that were received. Only `aaudio_msg_read_base` compares the size with what it
reads; the others read at fixed offsets, and return a length or a count as the sender
wrote it.
-/

namespace BceDriver

def AAUDIO_MSG_UPDATE_TIMESTAMP : Nat := 4
def AAUDIO_MSG_SET_PROPERTY_RESPONSE : Nat := 10

/-! ## The readers -/

structure AaudioMsgBase where
  msg : Nat
  status : Nat
deriving DecidableEq, Repr

structure AaudioTimestamp where
  devid : Nat
  timestamp : Nat
  updateSeed : Nat
deriving DecidableEq, Repr

section Readers

variable {m : Type → Type} [Monad m] (read : Nat → Nat → m Nat)

def aaudioMsgReadBase (size : Nat) : m (Option AaudioMsgBase) := do
  if size < AAUDIO_MSG_HEADER_SIZE + AAUDIO_MSG_BASE_SIZE * 2 then return none
  let msg ← read AAUDIO_MSG_HEADER_SIZE 4
  let status ← read (AAUDIO_MSG_HEADER_SIZE + 4) 4
  return some ⟨msg, status⟩

/-- `READ_START`, and the rest of the reader at the offset behind the base. -/
def readStart {α : Type} (type : Nat) (rest : Nat → m α) : m (Option α) := do
  let msg ← read AAUDIO_MSG_HEADER_SIZE 4
  if msg = type then return some (← rest (AAUDIO_MSG_HEADER_SIZE + AAUDIO_MSG_BASE_SIZE))
  else return none

def aaudioMsgReadUpdateTimestamp : m (Option AaudioTimestamp) :=
  readStart read AAUDIO_MSG_UPDATE_TIMESTAMP fun offset => do
    let devid ← read 5 8
    let timestamp ← read offset 8
    let updateSeed ← read (offset + 8) 8
    return ⟨devid, timestamp, updateSeed⟩

def aaudioMsgReadGetPropertyResponseWith : m (Option AaudioPropertyResponse) :=
  readStart read AAUDIO_MSG_GET_PROPERTY_RESPONSE fun offset => do
    let obj ← read offset 8
    let element ← read (offset + 8) 4
    let scope ← read (offset + 12) 4
    let selector ← read (offset + 16) 4
    let dataSize ← read (offset + 20) 8
    return ⟨obj, ⟨scope, selector, element⟩, offset + 28, dataSize⟩

def aaudioMsgReadSetPropertyResponse : m (Option Nat) :=
  readStart read AAUDIO_MSG_SET_PROPERTY_RESPONSE fun offset => read offset 8

/-- The readers of the list responses, for the type each accepts. -/
def aaudioMsgReadListResponseWith (type : Nat) : m (Option AaudioListResponse) :=
  readStart read type fun offset => do
    let cnt ← read offset 8
    return ⟨offset + 8, cnt⟩

end Readers

/-! ## The reads -/

/-- A read of the slot, whatever the size of the message is. -/
def AaudioMsg.reads (msg : AaudioMsg) (offset size : Nat) : Id Nat := msg.readVal offset size

/-- A read of the bytes that were received. -/
def AaudioMsg.readsWithin (msg : AaudioMsg) (offset size : Nat) : Option Nat :=
  if offset + size ≤ msg.size then some (msg.readVal offset size) else none

theorem AaudioMsg.readsWithin_bind_eq_some {msg : AaudioMsg} {α : Type} {offset size : Nat}
    {f : Nat → Option α} {a : α} :
    (msg.readsWithin offset size >>= f) = some a ↔
      offset + size ≤ msg.size ∧ f (msg.readVal offset size) = some a := by
  rw [AaudioMsg.readsWithin]
  split
  · next h => simp [h]
  · next h => simp [h]

theorem readStart_reads {α : Type} (msg : AaudioMsg) (type : Nat) (rest : Nat → Id α) :
    readStart msg.reads type rest =
      if msg.readVal AAUDIO_MSG_HEADER_SIZE 4 = type then some (rest 21) else none := by
  change (if _ then _ else _) = _
  rfl

/-- Over the slot, the readers are those of the responses that are replied into a buffer. -/
theorem aaudioMsgReadGetPropertyResponseWith_reads (msg : AaudioMsg) :
    aaudioMsgReadGetPropertyResponseWith msg.reads = aaudioMsgReadGetPropertyResponse msg := by
  rw [aaudioMsgReadGetPropertyResponseWith, readStart_reads, aaudioMsgReadGetPropertyResponse,
    aaudioReadStart]
  split <;> rfl

theorem aaudioMsgReadListResponseWith_reads (type : Nat) (msg : AaudioMsg) :
    aaudioMsgReadListResponseWith msg.reads type = aaudioMsgReadListResponse type msg := by
  rw [aaudioMsgReadListResponseWith, readStart_reads, aaudioMsgReadListResponse, aaudioReadStart]
  split <;> rfl

/-! ## Staying within the message -/

inductive AaudioReader where
  | base
  | updateTimestamp
  | getPropertyResponse
  | setPropertyResponse
  | inputStreamListResponse
  | outputStreamListResponse
  | deviceListResponse
deriving DecidableEq, Repr

/-- If a reader returns a value, it does so with the received bytes alone, and what it
points to ends within them. -/
def ReadWithin {α : Type} (msg : AaudioMsg)
    (reader : {m : Type → Type} → [Monad m] → (Nat → Nat → m Nat) → m (Option α))
    (payload : α → Nat) : Prop :=
  ∀ a, reader msg.reads = some a →
    reader msg.readsWithin = some (some a) ∧ payload a ≤ msg.size

/-- Where the data of a property end. -/
def AaudioPropertyResponse.payload (r : AaudioPropertyResponse) : Nat := r.data + r.dataSize

/-- Where the ids of a list end. -/
def AaudioListResponse.payload (l : AaudioListResponse) : Nat := l.list + l.cnt * 8

def AaudioReader.Within (msg : AaudioMsg) : AaudioReader → Prop
  | .base => ReadWithin msg (fun read => aaudioMsgReadBase read msg.size) fun _ => 0
  | .updateTimestamp => ReadWithin msg (fun read => aaudioMsgReadUpdateTimestamp read) fun _ => 0
  | .getPropertyResponse =>
    ReadWithin msg (fun read => aaudioMsgReadGetPropertyResponseWith read)
      AaudioPropertyResponse.payload
  | .setPropertyResponse =>
    ReadWithin msg (fun read => aaudioMsgReadSetPropertyResponse read) fun _ => 0
  | .inputStreamListResponse =>
    ReadWithin msg
      (fun read => aaudioMsgReadListResponseWith read AAUDIO_MSG_GET_INPUT_STREAM_LIST_RESPONSE)
      AaudioListResponse.payload
  | .outputStreamListResponse =>
    ReadWithin msg
      (fun read => aaudioMsgReadListResponseWith read AAUDIO_MSG_GET_OUTPUT_STREAM_LIST_RESPONSE)
      AaudioListResponse.payload
  | .deviceListResponse =>
    ReadWithin msg
      (fun read => aaudioMsgReadListResponseWith read AAUDIO_MSG_GET_DEVICE_LIST_RESPONSE)
      AaudioListResponse.payload

/-- A message of a type has a number of bytes at least. -/
def AaudioMsg.TypeFits (msg : AaudioMsg) (type size : Nat) : Prop :=
  msg.readVal AAUDIO_MSG_HEADER_SIZE 4 = type → size ≤ msg.size

/-- The message holds what the reader takes from a message of its type: the fields, and
as many bytes or ids behind them as it says. -/
def AaudioReader.Fits (msg : AaudioMsg) : AaudioReader → Prop
  | .base => True
  | .updateTimestamp => msg.TypeFits AAUDIO_MSG_UPDATE_TIMESTAMP 37
  | .getPropertyResponse =>
    msg.TypeFits AAUDIO_MSG_GET_PROPERTY_RESPONSE (49 + msg.readVal 41 8)
  | .setPropertyResponse => msg.TypeFits AAUDIO_MSG_SET_PROPERTY_RESPONSE 29
  | .inputStreamListResponse =>
    msg.TypeFits AAUDIO_MSG_GET_INPUT_STREAM_LIST_RESPONSE (29 + msg.readVal 21 8 * 8)
  | .outputStreamListResponse =>
    msg.TypeFits AAUDIO_MSG_GET_OUTPUT_STREAM_LIST_RESPONSE (29 + msg.readVal 21 8 * 8)
  | .deviceListResponse =>
    msg.TypeFits AAUDIO_MSG_GET_DEVICE_LIST_RESPONSE (29 + msg.readVal 21 8 * 8)

theorem readStart_readsWithin {α : Type} {msg : AaudioMsg} {type : Nat} {rest : Nat → Option α}
    {a : α} (h : msg.readVal AAUDIO_MSG_HEADER_SIZE 4 = type) :
    readStart msg.readsWithin type rest = some (some a) ↔ 17 ≤ msg.size ∧ rest 21 = some a := by
  rw [readStart, AaudioMsg.readsWithin_bind_eq_some, if_pos h]
  change _ ∧ (rest 21).bind _ = _ ↔ _
  rw [Option.bind_eq_some_iff]
  simp [AAUDIO_MSG_HEADER_SIZE]

/-- A reader that starts with `READ_START` stays within a message just if the message of
its type is long enough for it. -/
theorem readWithin_readStart_iff {α : Type} {msg : AaudioMsg} {type size : Nat}
    {reader : {m : Type → Type} → [Monad m] → (Nat → Nat → m Nat) → m (Option α)}
    {payload : α → Nat} {rest : Nat → Option α} {a : α}
    (hreads : reader msg.reads =
      (if msg.readVal AAUDIO_MSG_HEADER_SIZE 4 = type then some a else none : Option α))
    (hwithin : reader msg.readsWithin = readStart msg.readsWithin type rest)
    (hrest : 17 ≤ msg.size ∧ rest 21 = some a ∧ payload a ≤ msg.size ↔ size ≤ msg.size) :
    ReadWithin msg reader payload ↔ msg.TypeFits type size := by
  rw [ReadWithin, AaudioMsg.TypeFits, hreads, hwithin, ← hrest]
  constructor
  · intro h htype
    obtain ⟨hsome, hpayload⟩ := h a (if_pos htype)
    obtain ⟨hsize, hval⟩ := (readStart_readsWithin htype).mp hsome
    exact ⟨hsize, hval, hpayload⟩
  · intro h b hb
    split at hb
    · next htype =>
      obtain rfl := Option.some.inj hb
      obtain ⟨hsize, hval, hpayload⟩ := h htype
      exact ⟨(readStart_readsWithin htype).mpr ⟨hsize, hval⟩, hpayload⟩
    · cases hb

theorem updateTimestamp_within_iff (msg : AaudioMsg) :
    AaudioReader.updateTimestamp.Within msg ↔ AaudioReader.updateTimestamp.Fits msg := by
  refine readWithin_readStart_iff (a := ⟨msg.readVal 5 8, msg.readVal 21 8, msg.readVal 29 8⟩)
    (readStart_reads ..) rfl ?_
  simp only [AaudioMsg.readsWithin_bind_eq_some, Option.pure_def, and_true]
  omega

theorem getPropertyResponse_within_iff (msg : AaudioMsg) :
    AaudioReader.getPropertyResponse.Within msg ↔ AaudioReader.getPropertyResponse.Fits msg := by
  refine readWithin_readStart_iff (a := ⟨msg.readVal 21 8,
    ⟨msg.readVal 33 4, msg.readVal 37 4, msg.readVal 29 4⟩, 49, msg.readVal 41 8⟩)
    (readStart_reads ..) rfl ?_
  simp only [AaudioMsg.readsWithin_bind_eq_some, Option.pure_def, and_true,
    AaudioPropertyResponse.payload]
  omega

theorem setPropertyResponse_within_iff (msg : AaudioMsg) :
    AaudioReader.setPropertyResponse.Within msg ↔ AaudioReader.setPropertyResponse.Fits msg := by
  refine readWithin_readStart_iff (a := msg.readVal 21 8) (readStart_reads ..) rfl ?_
  rw [AaudioMsg.readsWithin]
  split <;> simp <;> omega

theorem listResponse_within_iff (msg : AaudioMsg) (type : Nat) :
    ReadWithin msg (fun read => aaudioMsgReadListResponseWith read type)
        AaudioListResponse.payload ↔
      msg.TypeFits type (29 + msg.readVal 21 8 * 8) := by
  refine readWithin_readStart_iff (a := ⟨29, msg.readVal 21 8⟩) (readStart_reads ..) rfl ?_
  simp only [AaudioMsg.readsWithin_bind_eq_some, Option.pure_def, and_true,
    AaudioListResponse.payload]
  omega

/-- The one reader that looks at the size. -/
theorem base_within (msg : AaudioMsg) : AaudioReader.base.Within msg := by
  intro a ha
  simp only [aaudioMsgReadBase] at ha ⊢
  by_cases hsize : msg.size < AAUDIO_MSG_HEADER_SIZE + AAUDIO_MSG_BASE_SIZE * 2
  · rw [if_pos hsize] at ha
    cases ha
  · rw [if_neg hsize] at ha
    obtain rfl : ⟨msg.readVal 13 4, msg.readVal 17 4⟩ = a := Option.some.inj ha
    rw [if_neg hsize]
    rw [AAUDIO_MSG_HEADER_SIZE, AAUDIO_MSG_BASE_SIZE] at hsize
    refine ⟨?_, Nat.zero_le _⟩
    rw [AaudioMsg.readsWithin_bind_eq_some, AaudioMsg.readsWithin_bind_eq_some]
    refine ⟨?_, ?_, rfl⟩ <;> rw [AAUDIO_MSG_HEADER_SIZE] <;> omega

/-- A reader stays within just the messages that hold what it takes. -/
theorem reader_within_iff (reader : AaudioReader) (msg : AaudioMsg) :
    reader.Within msg ↔ reader.Fits msg := by
  cases reader with
  | base => exact iff_of_true (base_within msg) trivial
  | updateTimestamp => exact updateTimestamp_within_iff msg
  | getPropertyResponse => exact getPropertyResponse_within_iff msg
  | setPropertyResponse => exact setPropertyResponse_within_iff msg
  | inputStreamListResponse | outputStreamListResponse | deviceListResponse =>
    exact listResponse_within_iff msg _

/-- The response to a query for the devices that ends behind its count, which is 1. -/
def countedDeviceList : AaudioMsg where
  size := 29
  data := List.replicate 13 0 ++ [102, 0, 0, 0] ++ List.replicate 4 0 ++ [1] ++
    List.replicate 4074 0

/-- The ids it counts were not received. -/
theorem reader_not_within :
    ¬∀ (reader : AaudioReader) (msg : AaudioMsg), AAUDIO_MSG_HEADER_SIZE ≤ msg.size →
      msg.size ≤ AAUDIO_BCE_QUEUE_ELEMENT_SIZE →
      msg.data.length = AAUDIO_BCE_QUEUE_ELEMENT_SIZE → reader.Within msg := by
  intro h
  have hlen : countedDeviceList.data.length = AAUDIO_BCE_QUEUE_ELEMENT_SIZE := by
    simp only [countedDeviceList, List.length_append, List.length_replicate, List.length_cons,
      List.length_nil, AAUDIO_BCE_QUEUE_ELEMENT_SIZE]
  have hread : aaudioMsgReadGetDeviceListResponse countedDeviceList = some ⟨29, 1⟩ := by decide
  have hwithin := h .deviceListResponse countedDeviceList (by decide) (by decide) hlen
  have hpayload := (hwithin ⟨29, 1⟩ ((aaudioMsgReadListResponseWith_reads ..).trans hread)).2
  exact absurd hpayload (by decide)

end BceDriver
