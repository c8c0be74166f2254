import FcomGateway.Library.HexText
import FcomGateway.Library.Varint
import Mathlib.Data.List.GetD

/-! # Messages of the MQTT client

`mqtt_msg.c`. A message is written behind the room for the longest fixed header, and the header
is put right before it when its length is known. A message of no bytes stands for a failure.
-/

namespace FcomGateway.Mqtt

open Varint HexText

def MQTT_MAX_FIXED_HEADER_SIZE : Nat := 5

inductive MessageType
  | connect
  | connack
  | publish
  | puback
  | pubrec
  | pubrel
  | pubcomp
  | subscribe
  | suback
  | unsubscribe
  | unsuback
  | pingreq
  | pingresp
  | disconnect
  deriving DecidableEq, Repr

def MessageType.code : MessageType → Nat
  | connect => 1
  | connack => 2
  | publish => 3
  | puback => 4
  | pubrec => 5
  | pubrel => 6
  | pubcomp => 7
  | subscribe => 8
  | suback => 9
  | unsubscribe => 10
  | unsuback => 11
  | pingreq => 12
  | pingresp => 13
  | disconnect => 14

def MessageType.ofCode : Nat → Option MessageType
  | 1 => some connect
  | 2 => some connack
  | 3 => some publish
  | 4 => some puback
  | 5 => some pubrec
  | 6 => some pubrel
  | 7 => some pubcomp
  | 8 => some subscribe
  | 9 => some suback
  | 10 => some unsubscribe
  | 11 => some unsuback
  | 12 => some pingreq
  | 13 => some pingresp
  | 14 => some disconnect
  | _ => none

/-- The first number other than 0 that `platform_random(65535)` gives. -/
structure MessageId where
  toNat : Nat
  pos : 0 < toNat
  lt : toNat < 65535

/-- `mqtt_message_t`; `data` are the `length` bytes from its pointer on. The offset is a `size_t`
that is subtracted from, by 3 at most for a message, and is read as a difference that is kept in an
`int`: up to 2^31 / 3 messages between two publications it is the number here. -/
structure MqttMessage where
  data : List UInt8
  fragmentedMsgTotalLength : Nat
  fragmentedMsgDataOffset : Int
  deriving DecidableEq, Repr

structure MqttConnection where
  message : MqttMessage
  bufferLength : Nat
  deriving DecidableEq, Repr

/-! ## Writing -/

def bigEndian (n : Nat) : List UInt8 := [UInt8.ofNat (n >>> 8), UInt8.ofNat (n &&& 0xFF)]

/-- `body` is what was written behind the room for the fixed header. -/
def appendString (bufferLength : Nat) (body string : List UInt8) : Option (List UInt8) :=
  if MQTT_MAX_FIXED_HEADER_SIZE + body.length + string.length + 2 > bufferLength then none
  else some (body ++ bigEndian string.length ++ string)

def appendMessageId (random : MessageId) (bufferLength : Nat) (body : List UInt8)
    (messageId : Nat) : Option (List UInt8 × Nat) :=
  let messageId := if messageId = 0 then random.toNat else messageId
  if MQTT_MAX_FIXED_HEADER_SIZE + body.length + 2 > bufferLength then none
  else some (body ++ bigEndian messageId, messageId)

def failMessage (c : MqttConnection) : MqttConnection :=
  { c with message := { c.message with data := [] } }

def encodedLens (totalLength : Nat) : List UInt8 :=
  if totalLength / 128 > 0 then
    UInt8.ofNat (totalLength % 128 ||| 0x80) :: encodedLens (totalLength / 128)
  else [UInt8.ofNat (totalLength % 128)]

def typeByte (type : MessageType) (dup qos retain : Nat) : UInt8 :=
  UInt8.ofNat ((type.code &&& 0x0F) <<< 4 ||| (dup &&& 1) <<< 3 ||| (qos &&& 3) <<< 1 |||
    retain &&& 1)

def finiMessage (c : MqttConnection) (body : List UInt8) (type : MessageType)
    (dup qos retain : Nat) : MqttConnection :=
  let totalLength := if c.message.fragmentedMsgTotalLength ≠ 0 then
    c.message.fragmentedMsgTotalLength - MQTT_MAX_FIXED_HEADER_SIZE else body.length
  let lens := encodedLens totalLength
  if lens.length + 1 > MQTT_MAX_FIXED_HEADER_SIZE then failMessage c
  else
    let offs := MQTT_MAX_FIXED_HEADER_SIZE - 1 - lens.length
    { c with message :=
      { c.message with
        data := typeByte type dup qos retain :: (lens ++ body)
        fragmentedMsgDataOffset := c.message.fragmentedMsgDataOffset - offs } }

/-- The payload; what does not fit into the buffer is left for later writes. -/
def appendPayload (c : MqttConnection) (body data : List UInt8) :
    MqttConnection × List UInt8 :=
  let offset := MQTT_MAX_FIXED_HEADER_SIZE + body.length
  if offset + data.length > c.bufferLength then
    ({ c with message :=
      { c.message with
        fragmentedMsgTotalLength := data.length + offset
        fragmentedMsgDataOffset := offset } },
      body ++ data.take (c.bufferLength - offset))
  else ({ c with message := { c.message with fragmentedMsgTotalLength := 0 } }, body ++ data)

/-- The message and the identifier that it was given; `topic` is the C string, empty for
`NULL`. -/
def mqttMsgPublish (random : MessageId) (c : MqttConnection) (topic data : List UInt8)
    (qos retain : Nat) : MqttConnection × Nat :=
  if topic = [] then (failMessage c, 0)
  else
    match appendString c.bufferLength [] topic with
    | none => (failMessage c, 0)
    | some body =>
      let header := if qos > 0 then appendMessageId random c.bufferLength body 0
        else some (body, 0)
      match header with
      | none => (failMessage c, 0)
      | some (body, messageId) =>
        let (c, body) := appendPayload c body data
        (finiMessage c body .publish 0 qos retain, messageId)

/-- A message of an identifier alone. -/
def idMessage (random : MessageId) (c : MqttConnection) (type : MessageType) (qos : Nat)
    (messageId : Nat) : MqttConnection :=
  match appendMessageId random c.bufferLength [] messageId with
  | none => failMessage c
  | some (body, _) => finiMessage c body type 0 qos 0

def mqttMsgPuback (random : MessageId) (c : MqttConnection) (messageId : Nat) : MqttConnection :=
  idMessage random c .puback 0 messageId

def mqttMsgPubrec (random : MessageId) (c : MqttConnection) (messageId : Nat) : MqttConnection :=
  idMessage random c .pubrec 0 messageId

def mqttMsgPubrel (random : MessageId) (c : MqttConnection) (messageId : Nat) : MqttConnection :=
  idMessage random c .pubrel 1 messageId

def mqttMsgPubcomp (random : MessageId) (c : MqttConnection) (messageId : Nat) :
    MqttConnection :=
  idMessage random c .pubcomp 0 messageId

/-- An identifier, a topic and, for `subscribe`, the quality of service. -/
def topicMessage (random : MessageId) (c : MqttConnection) (type : MessageType)
    (topic rest : List UInt8) : MqttConnection × Nat :=
  if topic = [] then (failMessage c, 0)
  else
    match appendMessageId random c.bufferLength [] 0 with
    | none => (failMessage c, 0)
    | some (body, messageId) =>
      match appendString c.bufferLength body topic with
      | none => (failMessage c, messageId)
      | some body =>
        if MQTT_MAX_FIXED_HEADER_SIZE + body.length + rest.length > c.bufferLength then
          (failMessage c, messageId)
        else (finiMessage c (body ++ rest) type 0 1 0, messageId)

def mqttMsgSubscribe (random : MessageId) (c : MqttConnection) (topic : List UInt8) (qos : Nat) :
    MqttConnection × Nat :=
  topicMessage random c .subscribe topic [UInt8.ofNat qos]

def mqttMsgUnsubscribe (random : MessageId) (c : MqttConnection) (topic : List UInt8) :
    MqttConnection × Nat :=
  topicMessage random c .unsubscribe topic []

def mqttMsgPingreq (c : MqttConnection) : MqttConnection := finiMessage c [] .pingreq 0 0 0

def mqttMsgPingresp (c : MqttConnection) : MqttConnection := finiMessage c [] .pingresp 0 0 0

def mqttMsgDisconnect (c : MqttConnection) : MqttConnection := finiMessage c [] .disconnect 0 0 0

/-! ## Reading

`buffer` holds at least the `length` bytes that a function is told of.
-/

def getType (buffer : List UInt8) : Option MessageType :=
  MessageType.ofCode ((buffer.getD 0 0 &&& 0xF0) >>> 4).toNat

def getDup (buffer : List UInt8) : Nat := ((buffer.getD 0 0 &&& 0x08) >>> 3).toNat

def setDup (buffer : List UInt8) : List UInt8 := buffer.modifyHead (· ||| 0x08)

def getQos (buffer : List UInt8) : Nat := ((buffer.getD 0 0 &&& 0x06) >>> 1).toNat

def getRetain (buffer : List UInt8) : Nat := (buffer.getD 0 0 &&& 0x01).toNat

/-- `b[i] << 8 | b[i + 1]` -/
def twoBytes (buffer : List UInt8) (i : Nat) : Nat :=
  (buffer.getD i 0).toNat * 256 + (buffer.getD (i + 1) 0).toNat

/-- The loop over the bytes of the remaining length; `i` is the index of the first of `rest`. -/
def lengthLoop : List UInt8 → Nat → Nat → Nat × Nat
  | [], i, totlen => (totlen, i)
  | b :: rest, i, totlen =>
    let totlen := totlen + (b &&& 0x7F).toNat <<< (7 * (i - 1))
    if b &&& 0x80 = 0 then (totlen, i + 1) else lengthLoop rest (i + 1) totlen

/-- The remaining length and the length of the fixed header. -/
def fixedHeader (buffer : List UInt8) (length : Nat) : Nat × Nat :=
  lengthLoop ((buffer.take length).drop 1) 1 0

def mqttGetTotalLength (buffer : List UInt8) (length : Nat) : Nat × Nat :=
  let (totlen, i) := fixedHeader buffer length
  (totlen + i, i)

def mqttGetPublishTopic (buffer : List UInt8) (length : Nat) : Option (List UInt8) :=
  let i := (fixedHeader buffer length).2
  if i + 2 ≥ length then none
  else
    let topiclen := twoBytes buffer i
    let i := i + 2
    if i + topiclen > length then none else some ((buffer.drop i).take topiclen)

/-- `none` is `NULL`, with a length of 0. -/
def mqttGetPublishData (buffer : List UInt8) (length : Nat) : Option (List UInt8) :=
  let (totlen, i) := mqttGetTotalLength buffer length
  if i + 2 ≥ length then none
  else
    let topiclen := twoBytes buffer i
    let i := i + 2
    if i + topiclen ≥ length then none
    else
      let i := i + topiclen
      if getQos buffer > 0 ∧ i + 2 ≥ length then none
      else
        let i := if getQos buffer > 0 then i + 2 else i
        if totlen < i then none
        else some ((buffer.drop i).take (if totlen ≤ length then totlen - i else length - i))

def mqttGetId (buffer : List UInt8) (length : Nat) : Nat :=
  if length < 1 then 0
  else
    match getType buffer with
    | some .publish =>
      let i := (fixedHeader buffer length).2
      if i + 2 ≥ length then 0
      else
        let topiclen := twoBytes buffer i
        let i := i + 2
        if i + topiclen > length then 0
        else
          let i := i + topiclen
          if getQos buffer > 0 then if i + 2 > length then 0 else twoBytes buffer i else 0
    | some .puback | some .pubrec | some .pubrel | some .pubcomp | some .suback
    | some .unsuback | some .subscribe | some .unsubscribe =>
      if length ≥ 4 ∧ buffer.getD 1 0 &&& 0x80 = 0 then twoBytes buffer 2 else 0
    | _ => 0

def mqttGetSubackData (buffer : List UInt8) (length : Nat) : List UInt8 :=
  if length > 4 then (buffer.take length).drop 4 else []

def mqttHasValidMsgHdr (buffer : List UInt8) (length : Nat) : Bool :=
  if length < 1 then false
  else
    match getType buffer with
    | some .connect | some .connack | some .puback | some .pubrec | some .pubcomp
    | some .suback | some .unsuback | some .pingreq | some .pingresp | some .disconnect =>
      buffer.getD 0 0 &&& 0x0F = 0
    | some .pubrel | some .subscribe | some .unsubscribe => buffer.getD 0 0 &&& 0x0F = 0x02
    | some .publish => getQos buffer < 3 ∧ (getQos buffer > 0 ∨ getDup buffer = 0)
    | none => false

/-! ## Bytes of the header -/

theorem typeByte_reads (type : MessageType) (dup : Fin 2) (qos : Fin 4) (retain : Fin 2)
    (rest : List UInt8) :
    getType (typeByte type dup qos retain :: rest) = some type ∧
      getDup (typeByte type dup qos retain :: rest) = dup ∧
      getQos (typeByte type dup qos retain :: rest) = qos ∧
      getRetain (typeByte type dup qos retain :: rest) = retain := by
  simp only [getType, getDup, getQos, getRetain, List.getD_cons_zero]
  revert dup qos retain
  cases type <;> decide +kernel

theorem byte_mod (b : UInt8) : (b &&& 0x7F).toNat = b.toNat % 128 ∧
    (b &&& 0x80 = 0 ↔ b < 128) := by
  revert b
  exact forall_byte (by decide +kernel)

theorem or_0x80 (d : Fin 128) : UInt8.ofNat (d ||| 0x80) = UInt8.ofNat (d + 128) := by
  revert d
  decide +kernel

theorem encodedLens_eq (n : Nat) : encodedLens n = encode n := by
  induction n using encode.induct with
  | case1 n hSmall =>
    have hNone : ¬ n / 128 > 0 := by omega
    rw [encodedLens, if_neg hNone, encode_of_lt hSmall, Nat.mod_eq_of_lt hSmall]
  | case2 n hLarge ih =>
    have hMore : n / 128 > 0 := by omega
    rw [encodedLens, if_pos hMore, encode_of_le (Nat.not_lt.mp hLarge), ih]
    exact congrArg (· :: _) (or_0x80 ⟨n % 128, Nat.mod_lt n (by decide)⟩)

theorem lengthLoop_eq (s : List UInt8) (k totlen : Nat) :
    lengthLoop s (k + 1) totlen =
      (totlen + 128 ^ k * value (front s), k + 1 + (front s).length) := by
  induction s generalizing k totlen with
  | nil => rfl
  | cons b rest ih =>
    have hDigit : (b &&& 0x7F).toNat <<< (7 * (k + 1 - 1)) = 128 ^ k * (b.toNat % 128) := by
      rw [(byte_mod b).1, Nat.shiftLeft_eq, Nat.add_sub_cancel, Nat.pow_mul, Nat.mul_comm]
    rw [lengthLoop, front, hDigit]
    by_cases hLast : b < 128
    · rw [if_pos ((byte_mod b).2.mpr hLast), if_pos hLast, value, value]
      rfl
    · rw [if_neg fun h => hLast ((byte_mod b).2.mp h), if_neg hLast, ih, value, List.length_cons,
        Nat.mul_add, Nat.pow_succ, Nat.mul_assoc, Nat.add_assoc]
      congr 1
      omega

theorem fixedHeader_cons (b : UInt8) (s : List UInt8) (length : Nat) :
    fixedHeader (b :: s) (length + 1) =
      (value (front (s.take length)), 1 + (front (s.take length)).length) := by
  have hLoop := lengthLoop_eq (s.take length) 0 0
  rwa [Nat.pow_zero, Nat.one_mul, Nat.zero_add, Nat.zero_add] at hLoop

/-! ## Messages as frames -/

/-- A first byte, the remaining length and what it counts. -/
def frame (first : UInt8) (body : List UInt8) : List UInt8 :=
  first :: (encode body.length ++ body)

def headerLength (body : List UInt8) : Nat := 1 + (encode body.length).length

theorem frame_length (first : UInt8) (body : List UInt8) :
    (frame first body).length = headerLength body + body.length := by
  rw [frame, headerLength, List.length_cons, List.length_append]
  omega

/-- The number in the header is read whatever follows it. -/
theorem fixedHeader_encode (first : UInt8) (n : Nat) (rest : List UInt8) {length : Nat}
    (h : 1 + (encode n).length ≤ length) :
    fixedHeader (first :: (encode n ++ rest)) length = (n, 1 + (encode n).length) := by
  obtain ⟨k, rfl⟩ : ∃ k, length = k + 1 := ⟨length - 1, by omega⟩
  have hRoom : (encode n).length ≤ k := by omega
  rw [fixedHeader_cons, List.take_append, List.take_of_length_le hRoom, value_front_encode,
    front_append (encode_complete _)]

/-- The header is read from every part of the stream that contains it. -/
theorem fixedHeader_frame (first : UInt8) (body rest : List UInt8) {length : Nat}
    (h : headerLength body ≤ length) :
    fixedHeader (frame first body ++ rest) length = (body.length, headerLength body) := by
  rw [frame, List.cons_append, List.append_assoc]
  exact fixedHeader_encode first body.length (body ++ rest) h

theorem mqttGetTotalLength_frame (first : UInt8) (body rest : List UInt8) {length : Nat}
    (h : headerLength body ≤ length) :
    mqttGetTotalLength (frame first body ++ rest) length =
      ((frame first body).length, headerLength body) := by
  rw [mqttGetTotalLength, fixedHeader_frame first body rest h, frame_length, Nat.add_comm]

theorem drop_frame (first : UInt8) (body : List UInt8) (j : Nat) :
    (frame first body).drop (headerLength body + j) = body.drop j := by
  rw [frame, headerLength, ← List.drop_drop, Nat.add_comm 1, List.drop_succ_cons, List.drop_left]

theorem twoBytes_frame (first : UInt8) (body : List UInt8) (j : Nat) :
    twoBytes (frame first body) (headerLength body + j) = twoBytes body j := by
  have hRead : ∀ k, (frame first body)[headerLength body + k]? = body[k]? := by
    intro k
    rw [← List.getElem?_drop, ← Nat.add_zero (headerLength body), drop_frame, List.drop_zero]
  rw [twoBytes, twoBytes, Nat.add_assoc]
  simp only [List.getD_eq_getElem?_getD, hRead]

theorem twoBytes_bigEndian (before rest : List UInt8) {n : Nat} (h : n < 65536) :
    twoBytes (before ++ (bigEndian n ++ rest)) before.length = n := by
  have hHigh : (UInt8.ofNat (n >>> 8)).toNat = n / 256 := by
    rw [Nat.shiftRight_eq_div_pow, toNat_digit (by omega)]
  have hLow : (UInt8.ofNat (n &&& 0xFF)).toNat = n % 256 := by
    have hMod : n &&& 0xFF = n % 256 := Nat.and_two_pow_sub_one_eq_mod n 8
    rw [hMod, toNat_digit (by omega)]
  rw [twoBytes, List.getD_append_right _ _ _ _ le_rfl,
    List.getD_append_right _ _ _ _ (Nat.le_add_right _ 1), Nat.sub_self, Nat.add_sub_cancel_left]
  change (UInt8.ofNat (n >>> 8)).toNat * 256 + (UInt8.ofNat (n &&& 0xFF)).toNat = n
  rw [hHigh, hLow]
  omega

/-! ## What the readers see -/

/-- The first bytes of the buffer are those of the message. -/
def Shows (buffer : List UInt8) (length : Nat) (m : List UInt8) : Prop :=
  buffer.take length = m.take length

namespace Shows

variable {buffer m : List UInt8} {length : Nat}

theorem getElem? (h : Shows buffer length m) {j : Nat} (hj : j < length) : buffer[j]? = m[j]? := by
  rw [← List.getElem?_take_of_lt hj, h, List.getElem?_take_of_lt hj]

theorem getD (h : Shows buffer length m) {j : Nat} (hj : j < length) :
    buffer.getD j 0 = m.getD j 0 := by
  rw [List.getD_eq_getElem?_getD, List.getD_eq_getElem?_getD, h.getElem? hj]

theorem twoBytes (h : Shows buffer length m) {j : Nat} (hj : j + 2 ≤ length) :
    twoBytes buffer j = twoBytes m j := by
  rw [Mqtt.twoBytes, Mqtt.twoBytes, h.getD (by omega), h.getD (by omega)]

theorem drop_take (h : Shows buffer length m) {i n : Nat} (hn : i + n ≤ length) :
    (buffer.drop i).take n = (m.drop i).take n := by
  apply List.ext_getElem?
  intro j
  by_cases hj : j < n
  · rw [List.getElem?_take_of_lt hj, List.getElem?_take_of_lt hj, List.getElem?_drop,
      List.getElem?_drop, h.getElem? (by omega)]
  · rw [List.getElem?_take_eq_none (by omega), List.getElem?_take_eq_none (by omega)]

theorem fixedHeader (h : Shows buffer length m) :
    fixedHeader buffer length = fixedHeader m length := by
  rw [Mqtt.fixedHeader, Mqtt.fixedHeader, h]

end Shows

end FcomGateway.Mqtt
