import BceDriver.Audio.Pcm
import BceDriver.Audio.ReplyBuffer
import BceDriver.Lib.Table

/-!
# Audio devices and their streams (`audio/audio.c`)

`aaudio_init_dev` asks a device for its UID, its streams and their descriptions, and
`aaudio_init_bs` finds the buffers of the streams in the `BufferStruct`, a table in
the memory of the device.

- Every access to an array is partial, and faults with the name of the array.
- What the device supplies is `AaudioDevContent` and `AaudioBufferStruct`: the reply
  to each command, if one came, and the tables with any counts in them.
- `kzalloc` does not fail. What is only printed is left out.
-/

namespace BceDriver

def AAUDIO_SIG : Nat := 0x19870423
def AAUDIO_DEVICE_MAX_UID_LEN : Nat := 128
def AAUDIO_DEIVCE_MAX_INPUT_STREAMS : Nat := 1
def AAUDIO_DEIVCE_MAX_OUTPUT_STREAMS : Nat := 1
def AAUDIO_DEIVCE_MAX_BUFFER_COUNT : Nat := 1

/-- The arrays. -/
inductive AaudioArray where
  /-- the data of a message -/
  | reply
  | uid
  | inStreams
  | outStreams
  /-- `name`, of a device of the `BufferStruct` -/
  | name
  | devices
  | inputStreams
  | outputStreams
  /-- `buffers`, of a stream of the `BufferStruct` -/
  | bsBuffers
  /-- the buffers allocated for a stream -/
  | buffers
deriving DecidableEq, Repr

/-! ## Data -/

structure AaudioDmaBuf where
  dmaAddr : Nat
  ptr : Nat
  size : Nat
deriving DecidableEq, Repr

structure AaudioStream where
  id : Nat
  bufferCnt : Nat
  buffers : Option (List AaudioDmaBuf)
  desc : AaudioAppleDescription
  alsaHwDesc : Option SndPcmHardware
  latency : Nat
deriving DecidableEq, Repr

def AaudioStream.zero : AaudioStream where
  id := 0
  bufferCnt := 0
  buffers := none
  desc := .ofBytes []
  alsaHwDesc := none
  latency := 0

structure AaudioSubdevice where
  devId : Nat
  inLatency : Nat
  outLatency : Nat
  bufId : Nat
  alsaId : Nat
  uid : Vector UInt8 129
  inStreamCnt : Nat
  inStreams : Vector AaudioStream 1
  outStreamCnt : Nat
  outStreams : Vector AaudioStream 1
  isPcm : Bool
  /-- whether `pcm` is set -/
  pcm : Bool
deriving DecidableEq, Repr

/-- What `kzalloc` returns. -/
def AaudioSubdevice.zero : AaudioSubdevice where
  devId := 0
  inLatency := 0
  outLatency := 0
  bufId := 0
  alsaId := 0
  uid := .replicate 129 0
  inStreamCnt := 0
  inStreams := .replicate 1 .zero
  outStreamCnt := 0
  outStreams := .replicate 1 .zero
  isPcm := false
  pcm := false

structure AaudioSubdevices where
  /-- `subdevice_list` -/
  list : List AaudioSubdevice
  nextAlsaId : Nat
deriving DecidableEq, Repr

/-- Input or output streams. -/
inductive AaudioDir where
  | input | output
deriving DecidableEq, Repr

/-! ## What the device supplies -/

/-- What comes of a query for a primitive property, with the memory of its buffer. -/
structure AaudioQuery where
  exchange : AaudioExchange
  mem : ReplyMemory

/-- The answers about a stream. -/
structure AaudioStreamContent where
  physFormat : AaudioQuery
  latency : AaudioQuery

/-- The answers about a device. -/
structure AaudioDevContent where
  devId : Nat
  /-- the memory of the buffer for the replies -/
  mem : ReplyMemory
  uid : AaudioExchange
  inLatency : AaudioQuery
  outLatency : AaudioQuery
  inputStreams : AaudioExchange
  outputStreams : AaudioExchange
  stream : AaudioDir → Nat → AaudioStreamContent
  /-- what `snd_pcm_new` returns -/
  sndPcmNew : Int

structure AaudioBufferStructBuffer where
  address : Nat
  size : Nat
deriving DecidableEq, Repr

structure AaudioBufferStructStream where
  numBuffers : UInt8
  buffers : Vector AaudioBufferStructBuffer 100
deriving DecidableEq, Repr

structure AaudioBufferStructDevice where
  name : Vector UInt8 128
  numInputStreams : UInt8
  numOutputStreams : UInt8
  inputStreams : Vector AaudioBufferStructStream 5
  outputStreams : Vector AaudioBufferStructStream 5
deriving DecidableEq, Repr

structure AaudioBufferStruct where
  signature : Nat
  numDevices : UInt8
  devices : Vector AaudioBufferStructDevice 20
deriving DecidableEq, Repr

/-- What `aaudio_init_bs` finds: the registers, and the `BufferStruct` at the base. -/
structure AaudioBsContent where
  gprVersion : Nat
  gprSig : Nat
  bs : AaudioBufferStruct
  regMemBs : Nat
  regMemBsDma : Nat
  /-- whether `kmalloc_array` succeeds, for a stream of a device -/
  kmallocArray : Nat → AaudioDir → Nat → Bool

/-! ## Strings -/

/-- Whether `strcmp` finds the strings equal; `none` if it reads past an array. -/
def strcmpEq : List UInt8 → List UInt8 → Option Bool
  | a :: as, b :: bs => if a ≠ b then some false else if a = 0 then some true else strcmpEq as bs
  | _, _ => none

/-- What `strncpy` stores of the `n` bytes at its source. -/
def strncpyBytes (src : List UInt8) : List UInt8 :=
  let s := src.takeWhile (· ≠ 0)
  s ++ List.replicate (src.length - s.length) 0

/-- `"Speaker"` -/
def speakerUid : List UInt8 := [0x53, 0x70, 0x65, 0x61, 0x6b, 0x65, 0x72, 0]

/-- `"Codec Output"` -/
def codecOutputUid : List UInt8 :=
  [0x43, 0x6f, 0x64, 0x65, 0x63, 0x20, 0x4f, 0x75, 0x74, 0x70, 0x75, 0x74, 0]

/-- `strcmp` of a UID and another string. -/
def aaudioStrcmp (fault : AaudioArray) (s t : List UInt8) : Except AaudioArray Bool :=
  match strcmpEq s t with
  | some eq => .ok eq
  | none => .error fault

/-! ## Commands -/

/-- Bytes of a message. -/
def AaudioMsg.readBytes (msg : AaudioMsg) (offset size : Nat) : Except AaudioArray (List UInt8) :=
  if offset + size ≤ msg.data.length then .ok ((msg.data.drop offset).take size)
  else .error .reply

/-- A command on a buffer, with what its reader returns. -/
def aaudioCmdRead {α : Type} (read : AaudioMsg → Option α) (e : AaudioExchange) (buf : AaudioMsg) :
    Option α × AaudioMsg :=
  let sent := aaudioSendCmdSync e buf
  (if sent.1 = 0 then read sent.2 else none, sent.2)

def aaudioCmdGetProperty :
    AaudioExchange → AaudioMsg → Option AaudioPropertyResponse × AaudioMsg :=
  aaudioCmdRead aaudioMsgReadGetPropertyResponse

def aaudioCmdGetInputStreamList :
    AaudioExchange → AaudioMsg → Option AaudioListResponse × AaudioMsg :=
  aaudioCmdRead aaudioMsgReadGetInputStreamListResponse

def aaudioCmdGetOutputStreamList :
    AaudioExchange → AaudioMsg → Option AaudioListResponse × AaudioMsg :=
  aaudioCmdRead aaudioMsgReadGetOutputStreamListResponse

/-- `aaudio_cmd_get_primitive_property`; `none` for an error. -/
def aaudioCmdGetPrimitiveProperty (q : AaudioQuery) (dataSize : Nat) :
    Except AaudioArray (Option (List UInt8)) :=
  match aaudioCmdGetProperty q.exchange (aaudioReplyAlloc q.mem) with
  | (some r, reply) =>
    if r.dataSize ≠ dataSize then .ok none
    else do return some (← reply.readBytes r.data dataSize)
  | (none, _) => .ok none

/-- A property that stays as it was if the query fails. -/
def aaudioQueryVal (q : AaudioQuery) (dataSize old : Nat) : Except AaudioArray Nat := do
  return ((← aaudioCmdGetPrimitiveProperty q dataSize).map leValue).getD old

/-! ## `aaudio_init_dev` -/

section Dir

def AaudioDir.maxStreams : AaudioDir → Nat
  | .input => AAUDIO_DEIVCE_MAX_INPUT_STREAMS
  | .output => AAUDIO_DEIVCE_MAX_OUTPUT_STREAMS

/-- The streams of a subdevice. -/
def AaudioDir.array : AaudioDir → AaudioArray
  | .input => .inStreams
  | .output => .outStreams

/-- The streams of a device of the `BufferStruct`. -/
def AaudioDir.bsArray : AaudioDir → AaudioArray
  | .input => .inputStreams
  | .output => .outputStreams

def AaudioSubdevice.streamCnt (sdev : AaudioSubdevice) : AaudioDir → Nat
  | .input => sdev.inStreamCnt
  | .output => sdev.outStreamCnt

def AaudioSubdevice.streams (sdev : AaudioSubdevice) : AaudioDir → Vector AaudioStream 1
  | .input => sdev.inStreams
  | .output => sdev.outStreams

def AaudioSubdevice.setStreamCnt (sdev : AaudioSubdevice) (cnt : Nat) : AaudioDir → AaudioSubdevice
  | .input => { sdev with inStreamCnt := cnt }
  | .output => { sdev with outStreamCnt := cnt }

def AaudioSubdevice.setStreams (sdev : AaudioSubdevice) (streams : Vector AaudioStream 1) :
    AaudioDir → AaudioSubdevice
  | .input => { sdev with inStreams := streams }
  | .output => { sdev with outStreams := streams }

def AaudioBufferStructDevice.numStreams (dev : AaudioBufferStructDevice) : AaudioDir → UInt8
  | .input => dev.numInputStreams
  | .output => dev.numOutputStreams

def AaudioBufferStructDevice.streams (dev : AaudioBufferStructDevice) :
    AaudioDir → Vector AaudioBufferStructStream 5
  | .input => dev.inputStreams
  | .output => dev.outputStreams

end Dir

def aaudioInitStreamInfo (q : AaudioStreamContent) (strm : AaudioStream) :
    Except AaudioArray AaudioStream := do
  let desc ← aaudioCmdGetPrimitiveProperty q.physFormat AAUDIO_APPLE_DESCRIPTION_SIZE
  let latency ← aaudioQueryVal q.latency 4 strm.latency
  return { strm with desc := (desc.map .ofBytes).getD strm.desc, latency }

/-- The part of `aaudio_init_dev` behind a stream list: the count is clamped, and each
stream is asked about. -/
def aaudioInitStreams (dir : AaudioDir) (buf : AaudioMsg) (l : AaudioListResponse)
    (content : Nat → AaudioStreamContent) (sdev : AaudioSubdevice) :
    Except AaudioArray AaudioSubdevice :=
  let cnt := if dir.maxStreams < l.cnt then dir.maxStreams else l.cnt
  (List.range cnt).foldlM (fun sdev i => do
    let id ← buf.readBytes (l.list + 8 * i) 8
    let strm ← Table.get dir.array (sdev.streams dir) i
    let strm ← aaudioInitStreamInfo (content i) { strm with id := leValue id, bufferCnt := 0 }
    let streams ← Table.set dir.array (sdev.streams dir) i strm
    let isPcm := sdev.isPcm || strm.desc.formatId == AAUDIO_FORMAT_LPCM
    return { sdev.setStreams streams dir with isPcm }) (sdev.setStreamCnt cnt dir)

/-- The UID of the response, stored by `strncpy`, and the zero behind it. -/
def aaudioStoreUid (buf : AaudioMsg) (r : AaudioPropertyResponse) :
    Except AaudioArray (Vector UInt8 129) := do
  let src ← buf.readBytes r.data r.dataSize
  let uid ← Table.setAll .uid AaudioSubdevice.zero.uid 0 (strncpyBytes src)
  Table.set .uid uid (r.dataSize + 1) 0

/-- The devices that are not disabled. -/
def aaudioEnabledUid (uid : Vector UInt8 129) : Except AaudioArray Bool := do
  if ← aaudioStrcmp .uid uid.toList speakerUid then return true
  aaudioStrcmp .uid uid.toList codecOutputUid

/-- `aaudio_create_pcm`: the subdevice, and `next_alsa_id`. -/
def aaudioCreatePcm (sndPcmNew : Int) (sdev : AaudioSubdevice) (nextAlsaId : Nat) :
    AaudioSubdevice × Nat :=
  if ¬sdev.isPcm ∨ sdev.outStreamCnt = 0 then (sdev, nextAlsaId)
  else if sndPcmNew < 0 then ({ sdev with alsaId := nextAlsaId }, nextAlsaId + 1)
  else ({ sdev with alsaId := nextAlsaId, pcm := true }, nextAlsaId + 1)

/-- The part of `aaudio_init_dev` behind the UID. -/
def aaudioInitSubdev (a : AaudioSubdevices) (d : AaudioDevContent) (buf : AaudioMsg)
    (uid : Vector UInt8 129) : Except AaudioArray AaudioSubdevices := do
  let inLatency ← aaudioQueryVal d.inLatency 4 0
  let outLatency ← aaudioQueryVal d.outLatency 4 0
  let sdev := { AaudioSubdevice.zero with devId := d.devId, uid, inLatency, outLatency }
  match aaudioCmdGetInputStreamList d.inputStreams buf with
  | (none, _) => return a
  | (some l, buf) =>
    let sdev ← aaudioInitStreams .input buf l (d.stream .input) sdev
    match aaudioCmdGetOutputStreamList d.outputStreams buf with
    | (none, _) => return a
    | (some l, buf) =>
      let sdev ← aaudioInitStreams .output buf l (d.stream .output) sdev
      let pcm := if sdev.isPcm then aaudioCreatePcm d.sndPcmNew sdev a.nextAlsaId
        else (sdev, a.nextAlsaId)
      return { list := a.list ++ [pcm.1], nextAlsaId := pcm.2 }

def aaudioInitDev (a : AaudioSubdevices) (d : AaudioDevContent) :
    Except AaudioArray AaudioSubdevices :=
  match aaudioCmdGetProperty d.uid (aaudioReplyAlloc d.mem) with
  | (none, _) => .ok a
  | (some r, buf) =>
    if AAUDIO_DEVICE_MAX_UID_LEN < r.dataSize then .ok a
    else do
      let uid ← aaudioStoreUid buf r
      if ← aaudioEnabledUid uid then aaudioInitSubdev a d buf uid else return a

/-! ## `aaudio_init_bs` -/

def aaudioFindDevByUid (uid : List UInt8) :
    List AaudioSubdevice → Except AaudioArray (Option (Nat × AaudioSubdevice))
  | [] => .ok none
  | sdev :: list => do
    if ← aaudioStrcmp .name uid sdev.uid.toList then return some (0, sdev)
    return (← aaudioFindDevByUid uid list).map fun found => (found.1 + 1, found.2)

def aaudioInitBsStream (c : AaudioBsContent) (allocated : Bool) (strm : AaudioStream)
    (bs : AaudioBufferStructStream) : Except AaudioArray AaudioStream := do
  let cnt := if AAUDIO_DEIVCE_MAX_BUFFER_COUNT < bs.numBuffers.toNat then
      AAUDIO_DEIVCE_MAX_BUFFER_COUNT
    else bs.numBuffers.toNat
  if !allocated then return { strm with bufferCnt := cnt, buffers := none }
  let unset : Vector AaudioDmaBuf cnt := .replicate cnt ⟨0, 0, 0⟩
  let buffers ← (List.range cnt).foldlM (fun buffers i => do
    let b ← Table.get .bsBuffers bs.buffers i
    Table.set .buffers buffers i ⟨(c.regMemBsDma + b.address) % 2 ^ 64,
      (c.regMemBs + b.address) % 2 ^ 64, b.size⟩) unset
  let strm := { strm with bufferCnt := cnt, buffers := some buffers.toList }
  if cnt = 1 then
    let b ← Table.get .buffers buffers 0
    return { strm with alsaHwDesc := aaudioCreateHwInfo strm.desc b.size }
  else return strm

/-- The loop over the streams of a device in one direction. -/
def aaudioInitBsStreams (c : AaudioBsContent) (i : Nat) (dir : AaudioDir)
    (dev : AaudioBufferStructDevice) (sdev : AaudioSubdevice) :
    Except AaudioArray AaudioSubdevice :=
  (List.range (dev.numStreams dir).toNat).foldlM (fun sdev j => do
    let bs ← Table.get dir.bsArray (dev.streams dir) j
    if j < sdev.streamCnt dir then
      let strm ← Table.get dir.array (sdev.streams dir) j
      let strm ← aaudioInitBsStream c (c.kmallocArray i dir j) strm bs
      return sdev.setStreams (← Table.set dir.array (sdev.streams dir) j strm) dir
    else return sdev) sdev

/-- The body of the loop over the devices. -/
def aaudioInitBsDevice (c : AaudioBsContent) (list : List AaudioSubdevice) (i : Nat) :
    Except AaudioArray (List AaudioSubdevice) := do
  let dev ← Table.get .devices c.bs.devices i
  match ← aaudioFindDevByUid dev.name.toList list with
  | none => return list
  | some (k, sdev) =>
    let sdev ← aaudioInitBsStreams c i .input dev { sdev with bufId := i % 256 }
    let sdev ← aaudioInitBsStreams c i .output dev sdev
    return list.set k sdev

/-- The version and the signatures are as they should be. -/
def AaudioBsContent.Valid (c : AaudioBsContent) : Prop :=
  3 ≤ c.gprVersion ∧ c.gprSig = AAUDIO_SIG ∧ c.bs.signature = AAUDIO_SIG

instance AaudioBsContent.Valid.decidable (c : AaudioBsContent) : Decidable c.Valid :=
  inferInstanceAs (Decidable (_ ∧ _))

def aaudioInitBs (c : AaudioBsContent) (list : List AaudioSubdevice) :
    Except AaudioArray (Int × List AaudioSubdevice) :=
  if c.Valid then do
    return (0, ← (List.range c.bs.numDevices.toNat).foldlM (aaudioInitBsDevice c) list)
  else .ok (-EINVAL, list)

/-- The devices one after the other, then the `BufferStruct`. -/
def aaudioInit (devs : List AaudioDevContent) (c : AaudioBsContent) :
    Except AaudioArray (Int × List AaudioSubdevice) := do
  let a ← devs.foldlM aaudioInitDev ⟨[], 0⟩
  aaudioInitBs c a.list

end BceDriver
