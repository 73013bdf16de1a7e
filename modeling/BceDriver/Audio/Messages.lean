import BceDriver.Audio.Transport
import Mathlib.Data.Nat.Digits.Defs

/-!
# Reading messages (`audio/protocol.c`)

The readers of the responses whose command is given a buffer to reply into. They
read at fixed offsets behind the header and the base, whatever the size of the
message is, and a list or a property is returned as the offset of its bytes.
-/

namespace BceDriver

/-- `sizeof(struct aaudio_msg_header)`: tag, type and device id, packed. -/
def AAUDIO_MSG_HEADER_SIZE : Nat := 13

/-- `sizeof(struct aaudio_msg_base)` -/
def AAUDIO_MSG_BASE_SIZE : Nat := 8

def AAUDIO_MSG_GET_PROPERTY_RESPONSE : Nat := 8
def AAUDIO_MSG_GET_INPUT_STREAM_LIST_RESPONSE : Nat := 25
def AAUDIO_MSG_GET_OUTPUT_STREAM_LIST_RESPONSE : Nat := 27
def AAUDIO_MSG_GET_DEVICE_LIST_RESPONSE : Nat := 102

/-- The little-endian value of bytes. -/
def leValue (bytes : List UInt8) : Nat := Nat.ofDigits 256 (bytes.map UInt8.toNat)

/-- `READ_VAL` -/
def AaudioMsg.readVal (msg : AaudioMsg) (offset size : Nat) : Nat :=
  leValue ((msg.data.drop offset).take size)

/-- `READ_START`: the offset behind the base of a message of the type, or `-EINVAL`. -/
def aaudioReadStart (type : Nat) (msg : AaudioMsg) : Option Nat :=
  if msg.readVal AAUDIO_MSG_HEADER_SIZE 4 = type then
    some (AAUDIO_MSG_HEADER_SIZE + AAUDIO_MSG_BASE_SIZE)
  else none

structure AaudioPropAddr where
  scope : Nat
  selector : Nat
  element : Nat
deriving DecidableEq, Repr

/-- A property as `aaudio_msg_read_get_property_response` returns it. -/
structure AaudioPropertyResponse where
  obj : Nat
  prop : AaudioPropAddr
  /-- where `*data` points to in the message -/
  data : Nat
  dataSize : Nat
deriving DecidableEq, Repr

def aaudioMsgReadGetPropertyResponse (msg : AaudioMsg) : Option AaudioPropertyResponse := do
  let offset ← aaudioReadStart AAUDIO_MSG_GET_PROPERTY_RESPONSE msg
  let obj := msg.readVal offset 8
  let element := msg.readVal (offset + 8) 4
  let scope := msg.readVal (offset + 12) 4
  let selector := msg.readVal (offset + 16) 4
  let dataSize := msg.readVal (offset + 20) 8
  return ⟨obj, ⟨scope, selector, element⟩, offset + 28, dataSize⟩

/-- A list of ids: where it starts in the message, and its length. -/
structure AaudioListResponse where
  list : Nat
  cnt : Nat
deriving DecidableEq, Repr

/-- The readers of the list responses differ in the type they accept. -/
def aaudioMsgReadListResponse (type : Nat) (msg : AaudioMsg) : Option AaudioListResponse := do
  let offset ← aaudioReadStart type msg
  let cnt := msg.readVal offset 8
  return ⟨offset + 8, cnt⟩

def aaudioMsgReadGetInputStreamListResponse : AaudioMsg → Option AaudioListResponse :=
  aaudioMsgReadListResponse AAUDIO_MSG_GET_INPUT_STREAM_LIST_RESPONSE

def aaudioMsgReadGetOutputStreamListResponse : AaudioMsg → Option AaudioListResponse :=
  aaudioMsgReadListResponse AAUDIO_MSG_GET_OUTPUT_STREAM_LIST_RESPONSE

def aaudioMsgReadGetDeviceListResponse : AaudioMsg → Option AaudioListResponse :=
  aaudioMsgReadListResponse AAUDIO_MSG_GET_DEVICE_LIST_RESPONSE

end BceDriver
