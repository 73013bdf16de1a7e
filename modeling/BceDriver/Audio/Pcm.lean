import BceDriver.Audio.Messages

/-!
# Stream descriptions and the ALSA hardware info (`audio/description.h`, `audio/pcm.c`)

What `aaudio_create_hw_info` makes of the description of a stream. Two operations of
it need not have a value, and `none` stands for that: a shift by a count that is not
below 64, and a division by zero.
-/

namespace BceDriver

/-! ## Descriptions -/

structure AaudioAppleDescription where
  sampleRateDouble : BitVec 64
  formatId : BitVec 32
  formatFlags : BitVec 32
  bytesPerPacket : Nat
  framesPerPacket : Nat
  bytesPerFrame : Nat
  channelsPerFrame : Nat
  bitsPerChannel : Nat
deriving DecidableEq, Repr

/-- `sizeof(struct aaudio_apple_description)` -/
def AAUDIO_APPLE_DESCRIPTION_SIZE : Nat := 40

/-- The description in the bytes of a property. -/
def AaudioAppleDescription.ofBytes (bytes : List UInt8) : AaudioAppleDescription :=
  let word (offset size : Nat) : Nat := leValue ((bytes.drop offset).take size)
  { sampleRateDouble := .ofNat 64 (word 0 8)
    formatId := .ofNat 32 (word 8 4)
    formatFlags := .ofNat 32 (word 12 4)
    bytesPerPacket := word 16 4
    framesPerPacket := word 20 4
    bytesPerFrame := word 24 4
    channelsPerFrame := word 28 4
    bitsPerChannel := word 32 4 }

def AAUDIO_FORMAT_LPCM : BitVec 32 := 0x6c70636d

def AAUDIO_FORMAT_FLAG_FLOAT : BitVec 32 := 1
def AAUDIO_FORMAT_FLAG_BIG_ENDIAN : BitVec 32 := 2
def AAUDIO_FORMAT_FLAG_SIGNED : BitVec 32 := 4
def AAUDIO_FORMAT_FLAG_PACKED : BitVec 32 := 8
def AAUDIO_FORMAT_FLAG_ALIGNED_HIGH : BitVec 32 := 16
def AAUDIO_FORMAT_FLAG_NON_INTERLEAVED : BitVec 32 := 32

def AaudioAppleDescription.has (desc : AaudioAppleDescription) (flag : BitVec 32) : Bool :=
  desc.formatFlags &&& flag != 0

/-- A count `<<` and `>>` may have on 64 bits. -/
def ShiftCount (n : Int) : Prop := 0 ≤ n ∧ n < 64

instance ShiftCount.decidable (n : Int) : Decidable (ShiftCount n) :=
  inferInstanceAs (Decidable (_ ∧ _))

def aaudioDoubleToU64 (d : BitVec 64) : Option (BitVec 64) :=
  let sign := (d >>> 63) &&& 1
  let exp : Int := ((d >>> 52) &&& 0x7ff).toNat - 1023
  let fr := d &&& ((1#64 <<< 52) - 1)
  if sign ≠ 0 ∨ exp < 0 then some 0
  else if ShiftCount exp ∧ ShiftCount (52 - exp) then
    some ((1#64 <<< exp.toNat) + (fr >>> (52 - exp).toNat))
  else none

/-! ## Hardware info -/

/-- The width of an integer sample; `packed24` is 24 bits in three bytes. -/
inductive AlsaWidth where
  | w16 | w24 | w32 | packed24
deriving DecidableEq, Repr

/-- The bits `SNDRV_PCM_FMTBIT_…` that the driver uses. -/
inductive SndPcmFmtbit where
  | s8
  | u8
  | int (width : AlsaWidth) (signed bigEndian : Bool)
  | float (bigEndian : Bool)
  | float64 (bigEndian : Bool)
deriving DecidableEq, Repr

/-- `aaudio_get_alsa_fmtbit`; `none` for 0. -/
def aaudioGetAlsaFmtbit (desc : AaudioAppleDescription) : Option SndPcmFmtbit :=
  let bigEndian := desc.has AAUDIO_FORMAT_FLAG_BIG_ENDIAN
  let signed := desc.has AAUDIO_FORMAT_FLAG_SIGNED
  let packed := desc.has AAUDIO_FORMAT_FLAG_PACKED
  let bits := desc.bitsPerChannel
  if desc.has AAUDIO_FORMAT_FLAG_FLOAT then
    if bits = 32 then some (.float bigEndian)
    else if bits = 64 then some (.float64 bigEndian)
    else none
  else if packed ∧ bits = 24 then some (.int .packed24 signed bigEndian)
  else if packed ∧ bits ≠ 8 ∧ bits ≠ 16 ∧ bits ≠ 32 then none
  else if desc.has AAUDIO_FORMAT_FLAG_ALIGNED_HIGH then
    if bits = 24 then some (.int .w32 signed bigEndian) else none
  else if bits = 8 then some (if signed then .s8 else .u8)
  else if bits = 16 then some (.int .w16 signed bigEndian)
  else if bits = 24 then some (.int .w24 signed bigEndian)
  else if bits = 32 then some (.int .w32 signed bigEndian)
  else none

/-- `struct snd_pcm_hardware`, less the rate bit the kernel computes from the rate. -/
structure SndPcmHardware where
  interleaved : Bool
  formats : SndPcmFmtbit
  /-- `rate_min` and `rate_max` -/
  rate : Option Nat
  /-- `channels_min` and `channels_max` -/
  channels : Nat
  bufferBytesMax : Nat
  /-- `period_bytes_min` and `period_bytes_max` -/
  periodBytes : Nat
  /-- `periods_min` and `periods_max`: a division by the bytes of a packet -/
  periods : Option Nat
deriving DecidableEq, Repr

/-- `aaudio_create_hw_info`; `none` for `-EINVAL`. -/
def aaudioCreateHwInfo (desc : AaudioAppleDescription) (bufSize : Nat) : Option SndPcmHardware :=
  (aaudioGetAlsaFmtbit desc).map fun formats =>
    { interleaved := !desc.has AAUDIO_FORMAT_FLAG_NON_INTERLEAVED
      formats
      rate := (aaudioDoubleToU64 desc.sampleRateDouble).map fun rate => rate.toNat % 2 ^ 32
      channels := desc.channelsPerFrame
      bufferBytesMax := bufSize
      periodBytes := desc.bytesPerPacket
      periods :=
        if desc.bytesPerPacket = 0 then none else some (bufSize / desc.bytesPerPacket % 2 ^ 32) }

end BceDriver
