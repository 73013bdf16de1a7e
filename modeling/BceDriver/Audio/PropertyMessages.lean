import BceDriver.Audio.Messages
import BceDriver.Lib.ByteFormat
import Mathlib.Tactic.Ring

/-!
# Property messages (`audio/protocol.c`)

`aaudio_msg_write_get_property` and `aaudio_msg_write_set_property` write their
arguments into a slot of the queue, with running offsets; the readers read at offsets
of their own. `AaudioMsg.readProperty` reads what the writers write, in the layout of
the readers, and `aaudioMsgReadGetPropertyResponse` reads the response whose fields
are the same.

- `encodeProperty` is what both writers leave behind the tag: `write_set_property_eq`,
  `write_get_property_eq`.
- `readProperty_eq` reads it back, whatever the parts of variable length hold, since
  each comes behind its length.
-/

namespace BceDriver

def AAUDIO_MSG_TYPE_COMMAND : Nat := 1
def AAUDIO_MSG_GET_PROPERTY : Nat := 7
def AAUDIO_MSG_SET_PROPERTY : Nat := 9

/-! ## Writing -/

/-- `WRITE_START_OF_TYPE`: the header, less the tag. -/
def writeStartOfType (type : Nat) (devid : BitVec 64) (slot : List UInt8) : ByteCursor :=
  ⟨overwrite (overwrite slot 4 (leBytes 1 type)) 5 (leBytes 8 devid.toNat), AAUDIO_MSG_HEADER_SIZE⟩

/-- `WRITE_START_COMMAND` -/
def writeStartCommand : BitVec 64 → List UInt8 → ByteCursor :=
  writeStartOfType AAUDIO_MSG_TYPE_COMMAND

/-- `WRITE_VAL`, of a type of a size -/
def writeVal (size value : Nat) (c : ByteCursor) : ByteCursor := c.write (leBytes size value)

/-- `WRITE_BIN` -/
def writeBin (bytes : List UInt8) (c : ByteCursor) : ByteCursor := c.write bytes

/-- `WRITE_BASE` -/
def writeBase (type : Nat) (c : ByteCursor) : ByteCursor := writeVal 4 0 (writeVal 4 type c)

/-- `WRITE_END` -/
def writeEnd (c : ByteCursor) : AaudioMsg := ⟨c.offset, c.buf⟩

/-- The device, the object and the address of a property. -/
structure AaudioPropertyArgs where
  dev : BitVec 64
  obj : BitVec 64
  scope : BitVec 32
  selector : BitVec 32
  element : BitVec 32
deriving DecidableEq, Repr

def AaudioPropertyArgs.prop (a : AaudioPropertyArgs) : AaudioPropAddr :=
  ⟨a.scope.toNat, a.selector.toNat, a.element.toNat⟩

def aaudioMsgWriteGetProperty (slot : List UInt8) (a : AaudioPropertyArgs)
    (qualifier : List UInt8) : AaudioMsg :=
  writeStartCommand a.dev slot
    |> writeBase AAUDIO_MSG_GET_PROPERTY
    |> writeVal 8 a.obj.toNat
    |> writeVal 4 a.element.toNat
    |> writeVal 4 a.scope.toNat
    |> writeVal 4 a.selector.toNat
    |> writeVal 8 qualifier.length
    |> writeBin qualifier
    |> writeEnd

def aaudioMsgWriteSetProperty (slot : List UInt8) (a : AaudioPropertyArgs)
    (data qualifier : List UInt8) : AaudioMsg :=
  writeStartCommand a.dev slot
    |> writeBase AAUDIO_MSG_SET_PROPERTY
    |> writeVal 8 a.obj.toNat
    |> writeVal 4 a.element.toNat
    |> writeVal 4 a.scope.toNat
    |> writeVal 4 a.selector.toNat
    |> writeVal 8 data.length
    |> writeBin data
    |> writeVal 8 qualifier.length
    |> writeBin qualifier
    |> writeEnd

/-! ## What is written -/

/-- A part of variable length, behind its length. -/
def encodePart (part : List UInt8) : List UInt8 := leBytes 8 part.length ++ part

@[simp] theorem length_encodePart (part : List UInt8) :
    (encodePart part).length = 8 + part.length := by
  rw [encodePart, List.length_append, length_leBytes]

/-- The fields behind the tag. -/
def encodeProperty (code : Nat) (a : AaudioPropertyArgs) (parts : List (List UInt8)) :
    List UInt8 :=
  leBytes 1 AAUDIO_MSG_TYPE_COMMAND ++ (leBytes 8 a.dev.toNat ++ (leBytes 4 code ++
    (leBytes 4 0 ++ (leBytes 8 a.obj.toNat ++ (leBytes 4 a.element.toNat ++
      (leBytes 4 a.scope.toNat ++ (leBytes 4 a.selector.toNat ++ parts.flatMap encodePart)))))))

theorem length_encodeProperty (code : Nat) (a : AaudioPropertyArgs) (parts : List (List UInt8)) :
    (encodeProperty code a parts).length = 37 + (parts.flatMap encodePart).length := by
  simp only [encodeProperty, List.length_append, length_leBytes]
  ring

theorem length_le_encodeParts {parts : List (List UInt8)} {p : List UInt8} (hp : p ∈ parts) :
    p.length ≤ (parts.flatMap encodePart).length := by
  have hsub : p.Sublist (parts.flatMap encodePart) :=
    (List.sublist_append_right _ p).trans (List.sublist_flatten_of_mem (List.mem_map_of_mem hp))
  exact hsub.length_le

/-- The header of a command is written behind the tag. -/
theorem writeStartCommand_eq {slot : List UInt8} (h : 4 ≤ slot.length) (devid : BitVec 64) :
    writeStartCommand devid slot =
      (ByteCursor.mk slot 4).write
        (leBytes 1 AAUDIO_MSG_TYPE_COMMAND ++ leBytes 8 devid.toNat) := by
  rw [← ByteCursor.write_write h]
  rfl

theorem write_get_property_eq {slot : List UInt8} (h : 4 ≤ slot.length) (a : AaudioPropertyArgs)
    (qualifier : List UInt8) :
    aaudioMsgWriteGetProperty slot a qualifier =
      writeEnd ((ByteCursor.mk slot 4).write
        (encodeProperty AAUDIO_MSG_GET_PROPERTY a [qualifier])) := by
  simp only [aaudioMsgWriteGetProperty, writeBase, writeVal, writeBin, writeStartCommand_eq h,
    ByteCursor.write_write (c := ByteCursor.mk slot 4) h, encodeProperty, encodePart,
    List.flatMap_cons, List.flatMap_nil, List.append_nil, List.append_assoc]

theorem write_set_property_eq {slot : List UInt8} (h : 4 ≤ slot.length) (a : AaudioPropertyArgs)
    (data qualifier : List UInt8) :
    aaudioMsgWriteSetProperty slot a data qualifier =
      writeEnd ((ByteCursor.mk slot 4).write
        (encodeProperty AAUDIO_MSG_SET_PROPERTY a [data, qualifier])) := by
  simp only [aaudioMsgWriteSetProperty, writeBase, writeVal, writeBin, writeStartCommand_eq h,
    ByteCursor.write_write (c := ByteCursor.mk slot 4) h, encodeProperty, encodePart,
    List.flatMap_cons, List.flatMap_nil, List.append_nil, List.append_assoc]

/-! ## Reading -/

/-- What is read of a property message. -/
structure AaudioPropertyFields where
  type : Nat
  dev : Nat
  code : Nat
  status : Nat
  obj : Nat
  prop : AaudioPropAddr
  parts : List (List UInt8)
deriving DecidableEq, Repr

/-- Parts behind their lengths, and the offset behind them. -/
def AaudioMsg.readParts (msg : AaudioMsg) : Nat → Nat → List (List UInt8) × Nat
  | 0, offset => ([], offset)
  | n + 1, offset =>
    let size := msg.readVal offset 8
    let rest := msg.readParts n (offset + 8 + size)
    ((msg.data.drop (offset + 8)).take size :: rest.1, rest.2)

/-- A property message of a number of parts, in the layout of the readers, and how many
bytes it takes. -/
def AaudioMsg.readProperty (n : Nat) (msg : AaudioMsg) : AaudioPropertyFields × Nat :=
  let parts := msg.readParts n 41
  ({ type := msg.readVal 4 1
     dev := msg.readVal 5 8
     code := msg.readVal 13 4
     status := msg.readVal 17 4
     obj := msg.readVal 21 8
     prop := ⟨msg.readVal 33 4, msg.readVal 37 4, msg.readVal 29 4⟩
     parts := parts.1 }, parts.2)

def AaudioPropertyArgs.fields (code : Nat) (a : AaudioPropertyArgs) (parts : List (List UInt8)) :
    AaudioPropertyFields where
  type := AAUDIO_MSG_TYPE_COMMAND
  dev := a.dev.toNat
  code := code
  status := 0
  obj := a.obj.toNat
  prop := a.prop
  parts := parts

theorem readVal_leBytes {msg : AaudioMsg} {offset size n : Nat} {rest : List UInt8}
    (h : msg.data.drop offset = leBytes size n ++ rest) (hn : n < 256 ^ size) :
    msg.readVal offset size = n := by
  have htake := take_field h
  rw [length_leBytes] at htake
  rw [AaudioMsg.readVal, leValue, htake, ofDigits_leBytes hn]

theorem drop_leBytes {msg : AaudioMsg} {offset size n : Nat} {rest : List UInt8}
    (h : msg.data.drop offset = leBytes size n ++ rest) : msg.data.drop (offset + size) = rest := by
  have hdrop := drop_field h
  rwa [length_leBytes] at hdrop

/-- What is known of a message that holds the fields behind its tag. -/
structure Encodes (msg : AaudioMsg) (code : Nat) (a : AaudioPropertyArgs)
    (parts : List (List UInt8)) : Prop where
  type : msg.readVal 4 1 = AAUDIO_MSG_TYPE_COMMAND
  dev : msg.readVal 5 8 = a.dev.toNat
  code : msg.readVal 13 4 = code
  status : msg.readVal 17 4 = 0
  obj : msg.readVal 21 8 = a.obj.toNat
  element : msg.readVal 29 4 = a.element.toNat
  scope : msg.readVal 33 4 = a.scope.toNat
  selector : msg.readVal 37 4 = a.selector.toNat
  parts : ∃ rest, msg.data.drop 41 = parts.flatMap encodePart ++ rest

theorem encodes_of_drop {msg : AaudioMsg} {code : Nat} {a : AaudioPropertyArgs}
    {parts : List (List UInt8)} {rest : List UInt8} (hcode : code < 256 ^ 4)
    (h : msg.data.drop 4 = encodeProperty code a parts ++ rest) : Encodes msg code a parts := by
  simp only [encodeProperty, List.append_assoc] at h
  have h5 := drop_leBytes h
  have h13 := drop_leBytes h5
  have h17 := drop_leBytes h13
  have h21 := drop_leBytes h17
  have h29 := drop_leBytes h21
  have h33 := drop_leBytes h29
  have h37 := drop_leBytes h33
  exact {
    type := readVal_leBytes h (by decide)
    dev := readVal_leBytes h5 a.dev.isLt
    code := readVal_leBytes h13 hcode
    status := readVal_leBytes h17 (by decide)
    obj := readVal_leBytes h21 a.obj.isLt
    element := readVal_leBytes h29 a.element.isLt
    scope := readVal_leBytes h33 a.scope.isLt
    selector := readVal_leBytes h37 a.selector.isLt
    parts := ⟨rest, drop_leBytes h37⟩ }

/-- The parts are read back one by one. -/
theorem readParts_eq {msg : AaudioMsg} {offset : Nat} {parts : List (List UInt8)}
    {rest : List UInt8} (hlen : ∀ p ∈ parts, p.length < 256 ^ 8)
    (h : msg.data.drop offset = parts.flatMap encodePart ++ rest) :
    msg.readParts parts.length offset =
      (parts, offset + (parts.flatMap encodePart).length) := by
  induction parts generalizing offset with
  | nil => rfl
  | cons part parts ih =>
    rw [List.flatMap_cons, encodePart, List.append_assoc, List.append_assoc] at h
    have hsize := readVal_leBytes h (hlen part (List.mem_cons_self ..))
    have hpart := drop_leBytes h
    have hrest := ih (fun p hp => hlen p (List.mem_cons_of_mem _ hp)) (drop_field hpart)
    simp only [List.length_cons, AaudioMsg.readParts, hsize, take_field hpart, hrest,
      List.flatMap_cons, List.length_append, length_encodePart, Prod.mk.injEq, true_and]
    ring

theorem readProperty_eq {msg : AaudioMsg} {code : Nat} {a : AaudioPropertyArgs}
    {parts : List (List UInt8)} (hlen : ∀ p ∈ parts, p.length < 256 ^ 8)
    (h : Encodes msg code a parts) :
    msg.readProperty parts.length =
      (a.fields code parts, 41 + (parts.flatMap encodePart).length) := by
  obtain ⟨rest, hrest⟩ := h.parts
  simp only [AaudioMsg.readProperty, readParts_eq hlen hrest, h.type, h.dev, h.code, h.status,
    h.obj, h.element, h.scope, h.selector, AaudioPropertyArgs.fields, AaudioPropertyArgs.prop]

/-- A response whose fields are those of the message. -/
theorem readGetPropertyResponse_eq {msg : AaudioMsg} {a : AaudioPropertyArgs} {data : List UInt8}
    {more : List (List UInt8)} (hlen : data.length < 256 ^ 8)
    (h : Encodes msg AAUDIO_MSG_GET_PROPERTY_RESPONSE a (data :: more)) :
    aaudioMsgReadGetPropertyResponse msg = some ⟨a.obj.toNat, a.prop, 49, data.length⟩ ∧
      (msg.data.drop 49).take data.length = data := by
  obtain ⟨rest, hrest⟩ := h.parts
  rw [List.flatMap_cons, encodePart, List.append_assoc, List.append_assoc] at hrest
  have hsize := readVal_leBytes hrest hlen
  have hstart : aaudioReadStart AAUDIO_MSG_GET_PROPERTY_RESPONSE msg = some 21 := if_pos h.code
  refine ⟨?_, take_field (drop_leBytes hrest)⟩
  simp only [aaudioMsgReadGetPropertyResponse, hstart, Option.bind_eq_bind, Option.bind_some,
    h.obj, h.element, h.scope, h.selector, hsize, AaudioPropertyArgs.prop, Option.pure_def]

theorem fields_inj {code : Nat} {a a' : AaudioPropertyArgs} {parts parts' : List (List UInt8)}
    (h : a.fields code parts = a'.fields code parts') : a = a' ∧ parts = parts' := by
  cases a
  cases a'
  simp only [AaudioPropertyArgs.fields, AaudioPropertyArgs.prop, AaudioPropertyFields.mk.injEq,
    AaudioPropAddr.mk.injEq, BitVec.toNat_inj] at h
  obtain ⟨-, rfl, -, -, rfl, ⟨rfl, rfl, rfl⟩, rfl⟩ := h
  exact ⟨rfl, rfl⟩

/-! ## Round trips -/

/-- The bytes of a message. -/
def AaudioMsg.bytes (msg : AaudioMsg) : List UInt8 := msg.data.take msg.size

/-- The message with another code. -/
def AaudioMsg.withCode (msg : AaudioMsg) (code : Nat) : AaudioMsg :=
  { msg with data := overwrite msg.data AAUDIO_MSG_HEADER_SIZE (leBytes 4 code) }

/-- What is kept of the arguments in a message of a size: its first part of variable
length is `data`, and `more` are the others. -/
structure PropertyRoundTrip (slot : List UInt8) (msg : AaudioMsg) (size code : Nat)
    (a : AaudioPropertyArgs) (data : List UInt8) (more : List (List UInt8)) : Prop where
  size : msg.size = size
  /-- read back, the fields are the arguments, and no byte is left -/
  read : msg.readProperty (more.length + 1) = (a.fields code (data :: more), msg.size)
  response : ∃ r,
    aaudioMsgReadGetPropertyResponse (msg.withCode AAUDIO_MSG_GET_PROPERTY_RESPONSE) = some r ∧
      r.obj = a.obj.toNat ∧ r.prop = a.prop ∧ r.dataSize = data.length ∧
      ((msg.withCode AAUDIO_MSG_GET_PROPERTY_RESPONSE).data.drop r.data).take r.dataSize = data
  tag : msg.data.take 4 = slot.take 4

section RoundTrip

variable {slot : List UInt8} (hslot : 4 ≤ slot.length) (code : Nat) (hcode : code < 256 ^ 4)
variable (a : AaudioPropertyArgs) (parts : List (List UInt8))

/-- The message a writer leaves. -/
def writtenProperty (slot : List UInt8) (code : Nat) (a : AaudioPropertyArgs)
    (parts : List (List UInt8)) : AaudioMsg :=
  writeEnd ((ByteCursor.mk slot 4).write (encodeProperty code a parts))

theorem writtenProperty_size :
    (writtenProperty slot code a parts).size = 41 + (parts.flatMap encodePart).length := by
  change 4 + (encodeProperty code a parts).length = _
  rw [length_encodeProperty]
  ring

include hslot in
theorem writtenProperty_drop :
    ∃ rest, (writtenProperty slot code a parts).data.drop 4 = encodeProperty code a parts ++ rest :=
  ⟨_, drop_overwrite slot _ hslot⟩

include hslot in
theorem writtenProperty_bytes :
    (writtenProperty slot code a parts).bytes = slot.take 4 ++ encodeProperty code a parts := by
  have hlen : (slot.take 4 ++ encodeProperty code a parts).length =
      4 + (encodeProperty code a parts).length := by
    rw [List.length_append, List.length_take_of_le hslot]
  exact List.take_left' hlen

include hslot in
/-- Only the field of the code depends on the code. -/
theorem exists_writtenProperty_data :
    ∃ before behind, before.length = AAUDIO_MSG_HEADER_SIZE ∧ ∀ code,
      (writtenProperty slot code a parts).data = before ++ (leBytes 4 code ++ behind) := by
  refine ⟨slot.take 4 ++ (leBytes 1 AAUDIO_MSG_TYPE_COMMAND ++ leBytes 8 a.dev.toNat),
    leBytes 4 0 ++ (leBytes 8 a.obj.toNat ++ (leBytes 4 a.element.toNat ++
      (leBytes 4 a.scope.toNat ++ (leBytes 4 a.selector.toNat ++ (parts.flatMap encodePart ++
        slot.drop (4 + (37 + (parts.flatMap encodePart).length))))))), ?_, fun code => ?_⟩
  · simp only [List.length_append, List.length_take_of_le hslot, length_leBytes]
    rfl
  · simp only [writtenProperty, writeEnd, ByteCursor.write, overwrite, length_encodeProperty]
    simp only [encodeProperty, List.append_assoc]

include hslot in
/-- Another code makes it the message of that code. -/
theorem writtenProperty_withCode (code' : Nat) :
    ((writtenProperty slot code a parts).withCode code').data =
      (writtenProperty slot code' a parts).data := by
  obtain ⟨before, behind, hlen, hdata⟩ := exists_writtenProperty_data hslot a parts
  have hfield : (leBytes 4 code').length = (leBytes 4 code).length := by
    simp only [length_leBytes]
  change overwrite (writtenProperty slot code a parts).data AAUDIO_MSG_HEADER_SIZE _ = _
  rw [hdata, hdata, ← hlen, overwrite_field hfield]

include hslot hcode in
theorem writtenProperty_encodes : Encodes (writtenProperty slot code a parts) code a parts := by
  obtain ⟨rest, hrest⟩ := writtenProperty_drop hslot code a parts
  exact encodes_of_drop hcode hrest

include hslot hcode in
/-- What is written is read back. -/
theorem writtenProperty_roundTrip (data : List UInt8) (more : List (List UInt8)) {size : Nat}
    (hsize : 41 + ((data :: more).flatMap encodePart).length = size) (hfits : size < 256 ^ 8) :
    PropertyRoundTrip slot (writtenProperty slot code a (data :: more)) size code a data more := by
  have hlen : ∀ p ∈ data :: more, p.length < 256 ^ 8 := by
    intro p hp
    have := length_le_encodeParts hp
    omega
  have hwritten : (writtenProperty slot code a (data :: more)).size = size := by
    rw [writtenProperty_size, hsize]
  have hcodes : Encodes ((writtenProperty slot code a (data :: more)).withCode
      AAUDIO_MSG_GET_PROPERTY_RESPONSE) AAUDIO_MSG_GET_PROPERTY_RESPONSE a (data :: more) := by
    obtain ⟨rest, hrest⟩ :=
      writtenProperty_drop hslot AAUDIO_MSG_GET_PROPERTY_RESPONSE a (data :: more)
    rw [← writtenProperty_withCode hslot code] at hrest
    exact encodes_of_drop (by decide) hrest
  exact {
    size := hwritten
    read := by
      rw [hwritten, ← hsize]
      exact readProperty_eq hlen (writtenProperty_encodes hslot code hcode a (data :: more))
    response := by
      obtain ⟨hread, hbytes⟩ :=
        readGetPropertyResponse_eq (hlen data (List.mem_cons_self ..)) hcodes
      exact ⟨_, hread, rfl, rfl, rfl, hbytes⟩
    tag := take_overwrite slot _ hslot }

include hcode in
/-- The bytes of a message determine what was written. -/
theorem encodeProperty_inj {a' : AaudioPropertyArgs} {parts' : List (List UInt8)}
    (hparts : parts.length = parts'.length)
    (hfits : (parts.flatMap encodePart).length < 256 ^ 8)
    (h : encodeProperty code a parts = encodeProperty code a' parts') :
    a = a' ∧ parts = parts' := by
  have hfits' : (parts'.flatMap encodePart).length < 256 ^ 8 := by
    have hlen := congrArg List.length h
    rw [length_encodeProperty, length_encodeProperty] at hlen
    omega
  -- a message of these bytes, behind a tag
  let msg : AaudioMsg := ⟨0, [0, 0, 0, 0] ++ encodeProperty code a parts⟩
  have hdrop : msg.data.drop 4 = encodeProperty code a parts ++ [] := by
    rw [List.append_nil]
    rfl
  have hread := readProperty_eq (fun _ hp => (length_le_encodeParts hp).trans_lt hfits)
    (encodes_of_drop hcode hdrop)
  rw [h] at hdrop
  have hread' := readProperty_eq (fun _ hp => (length_le_encodeParts hp).trans_lt hfits')
    (encodes_of_drop hcode hdrop)
  rw [hparts, hread'] at hread
  exact fields_inj (congrArg Prod.fst hread.symm)

include hslot hcode in
theorem writtenProperty_inj {slot' : List UInt8} (hslot' : 4 ≤ slot'.length)
    {a' : AaudioPropertyArgs} (parts' : List (List UInt8)) (hparts : parts.length = parts'.length)
    (hfits : (parts.flatMap encodePart).length < 256 ^ 8)
    (h : (writtenProperty slot code a parts).bytes = (writtenProperty slot' code a' parts').bytes) :
    a = a' ∧ parts = parts' := by
  rw [writtenProperty_bytes hslot, writtenProperty_bytes hslot'] at h
  have htag : (slot.take 4).length = (slot'.take 4).length := by
    rw [List.length_take_of_le hslot, List.length_take_of_le hslot']
  exact encodeProperty_inj code hcode a parts hparts hfits (List.append_inj_right h htag)

end RoundTrip

/-- The slots that messages are written into. -/
abbrev AaudioSlot := Vector UInt8 AAUDIO_BCE_QUEUE_ELEMENT_SIZE

theorem AaudioSlot.four_le (slot : AaudioSlot) : 4 ≤ slot.toList.length := by
  rw [Vector.length_toList]
  decide

/-- Both writers keep all of their arguments, and different arguments apart, as long as
the message fits in the slot. -/
theorem aaudioMsgWriteProperty_roundTrip (slot : AaudioSlot) (a : AaudioPropertyArgs)
    (data qualifier : List UInt8) :
    (49 + data.length + 8 + qualifier.length ≤ AAUDIO_BCE_QUEUE_ELEMENT_SIZE →
      PropertyRoundTrip slot.toList (aaudioMsgWriteSetProperty slot.toList a data qualifier)
          (49 + data.length + 8 + qualifier.length) AAUDIO_MSG_SET_PROPERTY a data [qualifier] ∧
        ∀ (slot' : AaudioSlot) a' data' qualifier',
          49 + data'.length + 8 + qualifier'.length ≤ AAUDIO_BCE_QUEUE_ELEMENT_SIZE →
          (aaudioMsgWriteSetProperty slot.toList a data qualifier).bytes =
            (aaudioMsgWriteSetProperty slot'.toList a' data' qualifier').bytes →
          (a, data, qualifier) = (a', data', qualifier')) ∧
    (49 + qualifier.length ≤ AAUDIO_BCE_QUEUE_ELEMENT_SIZE →
      PropertyRoundTrip slot.toList (aaudioMsgWriteGetProperty slot.toList a qualifier)
          (49 + qualifier.length) AAUDIO_MSG_GET_PROPERTY a qualifier [] ∧
        ∀ (slot' : AaudioSlot) a' qualifier',
          49 + qualifier'.length ≤ AAUDIO_BCE_QUEUE_ELEMENT_SIZE →
          (aaudioMsgWriteGetProperty slot.toList a qualifier).bytes =
            (aaudioMsgWriteGetProperty slot'.toList a' qualifier').bytes →
          (a, qualifier) = (a', qualifier')) := by
  have hslot : AAUDIO_BCE_QUEUE_ELEMENT_SIZE < 256 ^ 8 := by decide
  constructor
  · intro hfits
    have hparts : ([data, qualifier].flatMap encodePart).length =
        8 + data.length + 8 + qualifier.length := by
      simp [add_assoc]
    rw [write_set_property_eq slot.four_le]
    refine ⟨writtenProperty_roundTrip slot.four_le _ (by decide) a data [qualifier] (by omega)
      (by omega), ?_⟩
    intro slot' a' data' qualifier' hfits' hbytes
    rw [write_set_property_eq slot'.four_le] at hbytes
    obtain ⟨rfl, heq⟩ := writtenProperty_inj slot.four_le _ (by decide) a [data, qualifier]
      slot'.four_le [data', qualifier'] rfl (by omega) hbytes
    obtain ⟨rfl, rfl⟩ : data = data' ∧ qualifier = qualifier' := by simpa using heq
    rfl
  · intro hfits
    have hparts : ([qualifier].flatMap encodePart).length = 8 + qualifier.length := by simp
    rw [write_get_property_eq slot.four_le]
    refine ⟨writtenProperty_roundTrip slot.four_le _ (by decide) a qualifier [] (by omega)
      (by omega), ?_⟩
    intro slot' a' qualifier' hfits' hbytes
    rw [write_get_property_eq slot'.four_le] at hbytes
    obtain ⟨rfl, heq⟩ := writtenProperty_inj slot.four_le _ (by decide) a [qualifier]
      slot'.four_le [qualifier'] rfl (by omega) hbytes
    obtain rfl : qualifier = qualifier' := by simpa using heq
    rfl

/-- A message that sets a property of two bytes, with a qualifier of one, and a query. -/
theorem aaudioMsgWriteProperty_roundTrip_zero :
    PropertyRoundTrip (Vector.replicate AAUDIO_BCE_QUEUE_ELEMENT_SIZE 0).toList
        (aaudioMsgWriteSetProperty (Vector.replicate AAUDIO_BCE_QUEUE_ELEMENT_SIZE 0).toList
          ⟨1, 2, 3, 4, 5⟩ [6, 7] [8]) 60 AAUDIO_MSG_SET_PROPERTY ⟨1, 2, 3, 4, 5⟩ [6, 7] [[8]] ∧
      PropertyRoundTrip (Vector.replicate AAUDIO_BCE_QUEUE_ELEMENT_SIZE 0).toList
        (aaudioMsgWriteGetProperty (Vector.replicate AAUDIO_BCE_QUEUE_ELEMENT_SIZE 0).toList
          ⟨1, 2, 3, 4, 5⟩ [8]) 50 AAUDIO_MSG_GET_PROPERTY ⟨1, 2, 3, 4, 5⟩ [8] [] :=
  ⟨((aaudioMsgWriteProperty_roundTrip (.replicate _ 0) ⟨1, 2, 3, 4, 5⟩ [6, 7] [8]).1
      (by decide)).1,
    ((aaudioMsgWriteProperty_roundTrip (.replicate _ 0) ⟨1, 2, 3, 4, 5⟩ [6, 7] [8]).2
      (by decide)).1⟩

end BceDriver
