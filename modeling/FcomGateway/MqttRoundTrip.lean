import FcomGateway.MqttMsg

/-! # Messages are read as they were written

What the functions that build a message write, the functions that take one apart read. A message
that does not fit into the buffer is built in part; the rest of its payload follows later.
-/

namespace FcomGateway.Mqtt

open Varint

/-! ## Published messages -/

/-- What a `PUBLISH` message says; without a quality of service it has no identifier. -/
structure Publish where
  topic : List UInt8
  data : List UInt8
  qos : Nat
  retain : Nat
  id : Nat
  named : topic ≠ []
  short : topic.length < 65536
  qosValid : qos < 3
  retainValid : retain < 2
  idValid : id < 65536
  unacknowledged : qos = 0 → id = 0

namespace Publish

def header (p : Publish) : List UInt8 :=
  bigEndian p.topic.length ++ (p.topic ++ if p.qos > 0 then bigEndian p.id else [])

def body (p : Publish) : List UInt8 := p.header ++ p.data

def bytes (p : Publish) (dup : Nat) : List UInt8 :=
  frame (typeByte .publish dup p.qos p.retain) p.body

/-- Where the payload begins. -/
def dataStart (p : Publish) : Nat := headerLength p.body + p.header.length

theorem bytes_length (p : Publish) (dup : Nat) :
    (p.bytes dup).length = p.dataStart + p.data.length := by
  rw [bytes, frame_length, dataStart, body, List.length_append, Nat.add_assoc]

theorem header_length (p : Publish) :
    p.header.length = 2 + p.topic.length + if p.qos > 0 then 2 else 0 := by
  rw [header, List.length_append, List.length_append, Nat.add_assoc]
  split <;> rfl

theorem topic_pos (p : Publish) : 0 < p.topic.length := List.length_pos_iff.mpr p.named

/-- What is read of a message when `length` bytes of it are in the buffer. -/
structure ReadAs (p : Publish) (dup : Nat) (buffer : List UInt8) (length : Nat) : Prop where
  type : getType buffer = some .publish
  duplicate : getDup buffer = dup
  qos : getQos buffer = p.qos
  retain : getRetain buffer = p.retain
  valid : p.qos > 0 ∨ dup = 0 → mqttHasValidMsgHdr buffer length = true
  total : mqttGetTotalLength buffer length = ((p.bytes dup).length, headerLength p.body)
  topic : mqttGetPublishTopic buffer length = some p.topic
  data : (mqttGetPublishData buffer length).getD [] = p.data.take (length - p.dataStart)
  id : mqttGetId buffer length = p.id

variable {p : Publish} {dup : Nat} {buffer : List UInt8} {length : Nat}

theorem typeByte_bytes (p : Publish) (hDup : dup < 2) : getType (p.bytes dup) = some .publish ∧
    getDup (p.bytes dup) = dup ∧ getQos (p.bytes dup) = p.qos ∧
    getRetain (p.bytes dup) = p.retain :=
  typeByte_reads .publish ⟨dup, hDup⟩ ⟨p.qos, p.qosValid.trans (by decide)⟩
    ⟨p.retain, p.retainValid⟩ _

theorem twoBytes_topic (p : Publish) (dup : Nat) :
    twoBytes (p.bytes dup) (headerLength p.body) = p.topic.length := by
  have hRead := twoBytes_frame (typeByte .publish dup p.qos p.retain) p.body 0
  rw [Nat.add_zero] at hRead
  rw [bytes, hRead, body, header, List.append_assoc]
  exact twoBytes_bigEndian [] _ p.short

theorem twoBytes_id (p : Publish) (dup : Nat) (hQos : p.qos > 0) :
    twoBytes (p.bytes dup) (headerLength p.body + (2 + p.topic.length)) = p.id := by
  have hBody : p.body = (bigEndian p.topic.length ++ p.topic) ++ (bigEndian p.id ++ p.data) := by
    rw [body, header, if_pos hQos, List.append_assoc, List.append_assoc, List.append_assoc]
  have hStart : 2 + p.topic.length = (bigEndian p.topic.length ++ p.topic).length := by
    rw [List.length_append]
    rfl
  rw [bytes, twoBytes_frame, hStart]
  nth_rewrite 1 [hBody]
  exact twoBytes_bigEndian _ _ p.idValid

theorem topic_bytes (p : Publish) (dup : Nat) :
    ((p.bytes dup).drop (headerLength p.body + 2)).take p.topic.length = p.topic := by
  rw [bytes, drop_frame, body, header, List.append_assoc, List.append_assoc]
  exact List.take_left

theorem data_bytes (p : Publish) (dup : Nat) : (p.bytes dup).drop p.dataStart = p.data := by
  rw [bytes, dataStart, drop_frame, body, List.drop_left]

/-- The first byte of the buffer is the one of the message. -/
theorem flags_shown (p : Publish) (hDup : dup < 2) (h : Shows buffer length (p.bytes dup))
    (hPos : 0 < length) : getType buffer = some .publish ∧ getDup buffer = dup ∧
      getQos buffer = p.qos ∧ getRetain buffer = p.retain := by
  rw [getType, getDup, getQos, getRetain, h.getD hPos]
  exact typeByte_bytes p hDup

theorem header_shown (p : Publish) (h : Shows buffer length (p.bytes dup))
    (hHeader : headerLength p.body ≤ length) :
    Mqtt.fixedHeader buffer length = (p.body.length, headerLength p.body) := by
  rw [h.fixedHeader, ← List.append_nil (p.bytes dup)]
  exact fixedHeader_frame _ _ _ hHeader

/-- A remaining length that is cut off is passed over as a whole. -/
theorem header_cut (p : Publish) (h : Shows buffer length (p.bytes dup)) (hPos : 0 < length)
    (hCut : length < headerLength p.body) : (Mqtt.fixedHeader buffer length).2 = length := by
  obtain ⟨k, rfl⟩ : ∃ k, length = k + 1 := ⟨length - 1, by omega⟩
  rw [headerLength] at hCut
  have hk : k < (encode p.body.length).length := by omega
  rw [h.fixedHeader, bytes, frame, fixedHeader_cons, List.take_append_of_le_length hk.le,
    front_take (encode_complete _) hk, List.length_take, min_eq_left hk.le, Nat.add_comm]

/-- The payload that the buffer has; at the end of the variable header it is `NULL`. -/
theorem data_shown (p : Publish) (h : Shows buffer length (p.bytes dup))
    (hStart : p.dataStart ≤ length) (hEnd : length ≤ (p.bytes dup).length)
    (hTotal : mqttGetTotalLength buffer length =
      ((p.bytes dup).length, headerLength p.body))
    (hTopicLength : twoBytes buffer (headerLength p.body) = p.topic.length)
    (hQos : getQos buffer = p.qos) :
    (mqttGetPublishData buffer length).getD [] = p.data.take (length - p.dataStart) := by
  have hTopic := p.topic_pos
  have hVariable := p.header_length
  have hStartEq : p.dataStart = headerLength p.body + p.header.length := rfl
  have hSize := p.bytes_length dup
  have hShown : ∀ n, p.dataStart + n ≤ length →
      (buffer.drop p.dataStart).take n = p.data.take n := by
    intro n hn
    rw [h.drop_take hn, data_bytes]
  have hEmpty : length = p.dataStart → [] = p.data.take (length - p.dataStart) := by
    intro hNone
    rw [hNone, Nat.sub_self, List.take_zero]
  have hRest : (if (p.bytes dup).length ≤ length then (p.bytes dup).length - p.dataStart
      else length - p.dataStart) = length - p.dataStart := by
    split <;> omega
  rw [mqttGetPublishData, hTotal]
  dsimp only
  rw [if_neg (by omega), hTopicLength, hQos]
  by_cases hSome : p.qos > 0
  · rw [if_pos hSome] at hVariable
    have hAt : headerLength p.body + 2 + p.topic.length + 2 = p.dataStart := by omega
    rw [if_neg (by omega), hAt]
    by_cases hNone : length = p.dataStart
    · rw [if_pos ⟨hSome, hNone.le⟩]
      exact hEmpty hNone
    · rw [if_neg (by omega), if_pos hSome, if_neg (by omega), hRest]
      exact hShown _ (by omega)
  · rw [if_neg hSome] at hVariable
    have hAt : headerLength p.body + 2 + p.topic.length = p.dataStart := by omega
    rw [hAt]
    by_cases hNone : length = p.dataStart
    · rw [if_pos hNone.le]
      exact hEmpty hNone
    · rw [if_neg (by omega), if_neg (fun hBoth => hSome hBoth.1), if_neg hSome,
        if_neg (by omega), hRest]
      exact hShown _ (by omega)

/-- A message is read as it was meant from every part of it that has its variable header. -/
theorem readAs (p : Publish) (hDup : dup < 2) (h : Shows buffer length (p.bytes dup))
    (hStart : p.dataStart ≤ length) (hEnd : length ≤ (p.bytes dup).length) :
    p.ReadAs dup buffer length := by
  have hTopic := p.topic_pos
  have hVariable := p.header_length
  have hStartEq : p.dataStart = headerLength p.body + p.header.length := rfl
  have hFrame := p.header_shown h (by omega)
  obtain ⟨hType, hDuplicate, hQos, hRetain⟩ := p.flags_shown hDup h (by omega)
  have hTotal : mqttGetTotalLength buffer length =
      ((p.bytes dup).length, headerLength p.body) := by
    rw [mqttGetTotalLength, hFrame, bytes, frame_length, Nat.add_comm]
  have hTopicLength : twoBytes buffer (headerLength p.body) = p.topic.length := by
    rw [h.twoBytes (by omega), twoBytes_topic]
  refine ⟨hType, hDuplicate, hQos, hRetain, ?_, hTotal, ?_, ?_, ?_⟩
  · intro hValid
    rw [mqttHasValidMsgHdr, if_neg (by omega), hType, hQos, hDuplicate]
    exact decide_eq_true ⟨p.qosValid, hValid⟩
  · rw [mqttGetPublishTopic, hFrame]
    dsimp only
    rw [if_neg (by omega), hTopicLength, if_neg (by omega), h.drop_take (by omega), topic_bytes]
  · exact data_shown p h hStart hEnd hTotal hTopicLength hQos
  · rw [mqttGetId, if_neg (by omega), hType]
    dsimp only
    rw [hFrame, if_neg (by omega), hTopicLength, if_neg (by omega), hQos]
    by_cases hSome : p.qos > 0
    · rw [if_pos hSome] at hVariable
      rw [if_pos hSome, if_neg (by omega), h.twoBytes (by omega)]
      rw [Nat.add_assoc, twoBytes_id p dup hSome]
    · rw [if_neg hSome, p.unacknowledged (by omega)]

end Publish

/-! ## What is written -/

theorem finiMessage_eq (c : MqttConnection) (body : List UInt8) (type : MessageType)
    (dup qos retain : Nat) {n : Nat} (hSize : n < 128 ^ 4)
    (hTotal : (if c.message.fragmentedMsgTotalLength ≠ 0 then
      c.message.fragmentedMsgTotalLength - MQTT_MAX_FIXED_HEADER_SIZE else body.length) = n) :
    finiMessage c body type dup qos retain =
      { c with message :=
        { c.message with
          data := typeByte type dup qos retain :: (encode n ++ body)
          fragmentedMsgDataOffset :=
            c.message.fragmentedMsgDataOffset - (4 - (encode n).length : Nat) } } := by
  have hLens : (encode n).length ≤ 4 := encode_length_le hSize
  have hFits : ¬ (encode n).length + 1 > MQTT_MAX_FIXED_HEADER_SIZE := by
    rw [MQTT_MAX_FIXED_HEADER_SIZE]
    omega
  rw [finiMessage]
  simp only [hTotal, encodedLens_eq]
  rw [if_neg hFits]
  rfl

/-- No part of a message is left to be sent. -/
def MqttConnection.Whole (c : MqttConnection) : Prop := c.message.fragmentedMsgTotalLength = 0

instance (c : MqttConnection) : Decidable c.Whole := inferInstanceAs (Decidable (_ = _))

theorem finiMessage_whole {c : MqttConnection} (hWhole : c.Whole) {body : List UInt8}
    (hSize : body.length < 128 ^ 4) (type : MessageType) (dup qos retain : Nat) :
    finiMessage c body type dup qos retain =
      { c with message :=
        { c.message with
          data := frame (typeByte type dup qos retain) body
          fragmentedMsgDataOffset :=
            c.message.fragmentedMsgDataOffset - (5 - headerLength body : Nat) } } := by
  have hOffs : 4 - (encode body.length).length = 5 - headerLength body := by
    rw [headerLength]
    omega
  rw [finiMessage_eq c body type dup qos retain hSize (if_neg (not_not.mpr hWhole)), hOffs, frame]

namespace Publish

variable {p : Publish} {random : MessageId} {c : MqttConnection}

/-- The identifier is the one that the publishing call draws. -/
def Draws (p : Publish) (random : MessageId) : Prop := p.qos > 0 → p.id = random.toNat

def headerRoom (p : Publish) : Nat := MQTT_MAX_FIXED_HEADER_SIZE + p.header.length

theorem mqttMsgPublish_eq (p : Publish) (hDraws : p.Draws random) (c : MqttConnection) :
    mqttMsgPublish random c p.topic p.data p.qos p.retain =
      if p.headerRoom > c.bufferLength then (failMessage c, 0)
      else
        let (c, body) := appendPayload c p.header p.data
        (finiMessage c body .publish 0 p.qos p.retain, p.id) := by
  have hHeader := p.header_length
  have hString : [] ++ bigEndian p.topic.length ++ p.topic =
      bigEndian p.topic.length ++ p.topic := rfl
  have hStringLength : (bigEndian p.topic.length ++ p.topic).length = 2 + p.topic.length := by
    rw [List.length_append]
    rfl
  rw [mqttMsgPublish, if_neg p.named, appendString, headerRoom, MQTT_MAX_FIXED_HEADER_SIZE,
    List.length_nil, hString]
  by_cases hTopic : 5 + 0 + p.topic.length + 2 > c.bufferLength
  · rw [if_pos hTopic, if_pos (by omega)]
  · rw [if_neg hTopic]
    dsimp only
    by_cases hQos : p.qos > 0
    · rw [if_pos hQos] at hHeader
      have hBody : bigEndian p.topic.length ++ p.topic ++ bigEndian random.toNat = p.header := by
        rw [header, if_pos hQos, hDraws hQos, List.append_assoc]
      rw [if_pos hQos, appendMessageId, if_pos rfl, hStringLength, hBody,
        MQTT_MAX_FIXED_HEADER_SIZE]
      by_cases hId : 5 + (2 + p.topic.length) + 2 > c.bufferLength
      · rw [if_pos hId, if_pos (by omega)]
      · rw [if_neg hId, if_neg (by omega), hDraws hQos]
    · have hBody : bigEndian p.topic.length ++ p.topic = p.header := by
        rw [header, if_neg hQos, List.append_nil]
      rw [if_neg hQos] at hHeader
      rw [if_neg hQos, if_neg (by omega), hBody, p.unacknowledged (by omega)]

theorem take_dataStart (p : Publish) (dup k : Nat) :
    (p.bytes dup).take (p.dataStart + k) =
      typeByte .publish dup p.qos p.retain ::
        (encode p.body.length ++ (p.header ++ p.data.take k)) := by
  have hSplit : p.bytes dup = (typeByte .publish dup p.qos p.retain ::
      (encode p.body.length ++ p.header)) ++ p.data := by
    rw [bytes, frame, body, List.cons_append, List.append_assoc]
  have hStart : p.dataStart = (typeByte .publish dup p.qos p.retain ::
      (encode p.body.length ++ p.header)).length := by
    rw [dataStart, headerLength, List.length_cons, List.length_append]
    omega
  rw [hSplit, hStart, List.take_length_add_append, List.cons_append, List.append_assoc]

/-- Where the buffer takes the whole message, it is built as it is. -/
theorem mqttMsgPublish_fits (hDraws : p.Draws random) (hSize : p.body.length < 128 ^ 4)
    (hRoom : p.headerRoom + p.data.length ≤ c.bufferLength) :
    mqttMsgPublish random c p.topic p.data p.qos p.retain =
      ({ c with message :=
        { data := p.bytes 0
          fragmentedMsgTotalLength := 0
          fragmentedMsgDataOffset :=
            c.message.fragmentedMsgDataOffset - (5 - headerLength p.body : Nat) } }, p.id) := by
  rw [mqttMsgPublish_eq p hDraws, if_neg (by omega), appendPayload]
  rw [headerRoom] at hRoom
  dsimp only
  rw [if_neg (by omega)]
  change (finiMessage _ p.body _ _ _ _, _) = _
  rw [finiMessage_whole (by rfl) hSize]
  rfl

/-- Else its beginning is built, and the offset tells where the payload begins in it. -/
theorem mqttMsgPublish_oversized (hDraws : p.Draws random) (hSize : p.body.length < 128 ^ 4)
    (hHeader : p.headerRoom ≤ c.bufferLength)
    (hRoom : c.bufferLength < p.headerRoom + p.data.length) :
    mqttMsgPublish random c p.topic p.data p.qos p.retain =
      ({ c with message :=
        { data := (p.bytes 0).take (p.dataStart + (c.bufferLength - p.headerRoom))
          fragmentedMsgTotalLength := p.data.length + p.headerRoom
          fragmentedMsgDataOffset := p.dataStart } }, p.id) := by
  have hLength : p.body.length = p.header.length + p.data.length := by
    rw [body, List.length_append]
  rw [mqttMsgPublish_eq p hDraws, if_neg (by omega), appendPayload]
  rw [headerRoom] at hHeader hRoom ⊢
  dsimp only
  rw [if_pos (by omega)]
  dsimp only
  rw [finiMessage_eq _ _ _ _ _ _ hSize]
  · have hOffset : ((MQTT_MAX_FIXED_HEADER_SIZE + p.header.length : Nat) : Int) -
        (4 - (encode p.body.length).length : Nat) = p.dataStart := by
      have hLens : (encode p.body.length).length ≤ 4 := encode_length_le hSize
      rw [dataStart, headerLength, MQTT_MAX_FIXED_HEADER_SIZE]
      omega
    dsimp only
    rw [hOffset, take_dataStart]
  · dsimp only
    rw [if_pos (by rw [MQTT_MAX_FIXED_HEADER_SIZE]; omega), hLength]
    omega

theorem setDup_bytes (p : Publish) : setDup (p.bytes 0) = p.bytes 1 := by
  have hByte : ∀ (qos : Fin 3) (retain : Fin 2), typeByte .publish 0 qos retain ||| 0x08 =
      typeByte .publish 1 qos retain := by decide +kernel
  rw [bytes, frame, setDup, List.modifyHead_cons]
  exact congrArg (· :: _) (hByte ⟨p.qos, p.qosValid⟩ ⟨p.retain, p.retainValid⟩)

theorem bytes_readAs (p : Publish) {dup : Nat} (hDup : dup < 2) :
    p.ReadAs dup (p.bytes dup) (p.bytes dup).length ∧
      (mqttGetPublishData (p.bytes dup) (p.bytes dup).length).getD [] = p.data := by
  have hLength := p.bytes_length dup
  have hRead : p.ReadAs dup (p.bytes dup) (p.bytes dup).length :=
    p.readAs hDup rfl (by omega) le_rfl
  refine ⟨hRead, hRead.data.trans ?_⟩
  rw [hLength, Nat.add_sub_cancel_left, List.take_length]

end Publish

/-- A message of twelve bytes on a topic of one. -/
def samplePublished : Publish :=
  ⟨[0x74], List.replicate 12 0x31, 1, 0, 7, by decide, by decide, by decide, by decide, by decide,
    by decide⟩

/-! ## Control messages -/

theorem bigEndian_length (n : Nat) : (bigEndian n).length = 2 := rfl

/-- What the client sends besides `CONNECT` and `PUBLISH`. -/
inductive Control
  | puback (id : UInt16)
  | pubrec (id : UInt16)
  | pubrel (id : UInt16)
  | pubcomp (id : UInt16)
  | subscribe (topic : List UInt8) (named : topic ≠ []) (qos : Nat)
  | unsubscribe (topic : List UInt8) (named : topic ≠ [])
  | pingreq
  | pingresp
  | disconnect

namespace Control

def build (random : MessageId) (c : MqttConnection) : Control → MqttConnection
  | puback id => mqttMsgPuback random c id.toNat
  | pubrec id => mqttMsgPubrec random c id.toNat
  | pubrel id => mqttMsgPubrel random c id.toNat
  | pubcomp id => mqttMsgPubcomp random c id.toNat
  | subscribe topic _ qos => (mqttMsgSubscribe random c topic qos).1
  | unsubscribe topic _ => (mqttMsgUnsubscribe random c topic).1
  | pingreq => mqttMsgPingreq c
  | pingresp => mqttMsgPingresp c
  | disconnect => mqttMsgDisconnect c

def type : Control → MessageType
  | puback _ => .puback
  | pubrec _ => .pubrec
  | pubrel _ => .pubrel
  | pubcomp _ => .pubcomp
  | subscribe _ _ _ => .subscribe
  | unsubscribe _ _ => .unsubscribe
  | pingreq => .pingreq
  | pingresp => .pingresp
  | disconnect => .disconnect

/-- The identifier; an answer to a message with the identifier 0 is given a new one. -/
def id? (random : MessageId) : Control → Option Nat
  | puback id | pubrec id | pubrel id | pubcomp id =>
    some (if id.toNat = 0 then random.toNat else id.toNat)
  | subscribe _ _ _ | unsubscribe _ _ => some random.toNat
  | pingreq | pingresp | disconnect => none

def rest : Control → List UInt8
  | subscribe topic _ qos => bigEndian topic.length ++ topic ++ [UInt8.ofNat qos]
  | unsubscribe topic _ => bigEndian topic.length ++ topic
  | _ => []

def body (random : MessageId) (m : Control) : List UInt8 :=
  ((m.id? random).map bigEndian).getD [] ++ m.rest

end Control

/-- The quality of service in the first byte of a control message. -/
def MessageType.flags : MessageType → Nat
  | pubrel | subscribe | unsubscribe => 1
  | _ => 0

theorem valid_head (b : UInt8) (rest : List UInt8) {length : Nat} (h : 0 < length) :
    mqttHasValidMsgHdr (b :: rest) length = mqttHasValidMsgHdr [b] 1 := by
  rw [mqttHasValidMsgHdr, mqttHasValidMsgHdr, if_neg (by omega), if_neg (by decide)]
  rfl

theorem valid_control {type : MessageType} (hType : type ≠ .publish) (rest : List UInt8) :
    getType (typeByte type 0 type.flags 0 :: rest) = some type ∧
      mqttHasValidMsgHdr (typeByte type 0 type.flags 0 :: rest) (rest.length + 1) = true := by
  have hFlags : type.flags < 4 := by cases type <;> decide
  refine ⟨(typeByte_reads type 0 ⟨_, hFlags⟩ 0 rest).1, ?_⟩
  rw [valid_head _ _ (Nat.succ_pos _)]
  cases type with
  | publish => exact absurd rfl hType
  | _ => decide +kernel

variable {random : MessageId} {c : MqttConnection}

theorem idMessage_eq (hRoom : 7 ≤ c.bufferLength) (type : MessageType) (qos id : Nat) :
    idMessage random c type qos id =
      finiMessage c (bigEndian (if id = 0 then random.toNat else id)) type 0 qos 0 := by
  have hFits : ¬ MQTT_MAX_FIXED_HEADER_SIZE + ([] : List UInt8).length + 2 > c.bufferLength := by
    rw [MQTT_MAX_FIXED_HEADER_SIZE, List.length_nil]
    omega
  rw [idMessage, appendMessageId, if_neg hFits]
  rfl

theorem topicMessage_eq (type : MessageType) {topic rest : List UInt8} (hNamed : topic ≠ [])
    (hRoom : 9 + topic.length + rest.length ≤ c.bufferLength) :
    (topicMessage random c type topic rest).1 =
      finiMessage c (bigEndian random.toNat ++ (bigEndian topic.length ++ topic ++ rest))
        type 0 1 0 := by
  have hId : ¬ MQTT_MAX_FIXED_HEADER_SIZE + ([] : List UInt8).length + 2 > c.bufferLength := by
    rw [MQTT_MAX_FIXED_HEADER_SIZE, List.length_nil]
    omega
  rw [topicMessage, if_neg hNamed, appendMessageId, if_neg hId, if_pos rfl, List.nil_append]
  dsimp only
  rw [appendString, bigEndian_length, if_neg (by rw [MQTT_MAX_FIXED_HEADER_SIZE]; omega)]
  dsimp only
  rw [List.length_append, List.length_append, bigEndian_length, bigEndian_length,
    if_neg (by rw [MQTT_MAX_FIXED_HEADER_SIZE]; omega)]
  rw [List.append_assoc, List.append_assoc, List.append_assoc]

namespace Control

/-- What is read of a control message; the identifier is looked for behind a length of one
byte. -/
structure Reads (m : Control) (random : MessageId) (bytes : List UInt8) : Prop where
  type : getType bytes = some m.type
  valid : mqttHasValidMsgHdr bytes bytes.length = true
  total : (mqttGetTotalLength bytes bytes.length).1 = bytes.length
  id : mqttGetId bytes bytes.length =
    if bytes.length < 130 then (m.id? random).getD 0 else 0

theorem id_lt {m : Control} {id : Nat} (h : id ∈ m.id? random) : id < 65536 := by
  have hRandom := random.lt
  cases m with
  | puback n | pubrec n | pubrel n | pubcomp n =>
    have hBound := n.toNat_lt
    cases h
    split <;> omega
  | subscribe | unsubscribe =>
    cases h
    omega
  | pingreq | pingresp | disconnect => cases h

theorem type_ne_publish (m : Control) : m.type ≠ .publish := by
  cases m <;> exact nofun

theorem build_eq (m : Control)
    (hRoom : MQTT_MAX_FIXED_HEADER_SIZE + (m.body random).length ≤ c.bufferLength) :
    m.build random c = finiMessage c (m.body random) m.type 0 m.type.flags 0 := by
  cases m with
  | puback id | pubrec id | pubrel id | pubcomp id => exact idMessage_eq hRoom _ _ _
  | subscribe topic named qos =>
    have hBody : (body random (.subscribe topic named qos)).length = 5 + topic.length := by
      simp only [body, id?, rest, Option.map_some, Option.getD_some, List.length_append,
        bigEndian_length, List.length_singleton]
      omega
    rw [hBody, MQTT_MAX_FIXED_HEADER_SIZE] at hRoom
    exact topicMessage_eq .subscribe named (by rw [List.length_singleton]; omega)
  | unsubscribe topic named =>
    have hBody : (body random (.unsubscribe topic named)).length = 4 + topic.length := by
      simp only [body, id?, rest, Option.map_some, Option.getD_some, List.length_append,
        bigEndian_length]
      omega
    rw [hBody, MQTT_MAX_FIXED_HEADER_SIZE] at hRoom
    have hBuilt : (topicMessage random c .unsubscribe topic []).1 = _ :=
      topicMessage_eq .unsubscribe named (by rw [List.length_nil]; omega)
    rw [List.append_nil] at hBuilt
    exact hBuilt
  | pingreq | pingresp | disconnect => rfl

end Control

theorem encode_length_eq_one {n : Nat} : (encode n).length = 1 ↔ n < 128 := by
  by_cases hSmall : n < 128
  · rw [encode_of_lt hSmall, List.length_singleton]
    exact iff_of_true rfl hSmall
  · rw [encode_of_le (Nat.not_lt.mp hSmall), List.length_cons]
    have hMore := List.length_pos_iff.mpr (encode_ne_nil (n / 128))
    omega

theorem frame_short {first : UInt8} {body : List UInt8} :
    (frame first body).length < 130 ↔ body.length < 128 := by
  have hOne := encode_length_eq_one (n := body.length)
  have hPos := List.length_pos_iff.mpr (encode_ne_nil body.length)
  rw [frame_length, headerLength]
  omega

theorem frame_lengthByte (first : UInt8) (body : List UInt8) :
    (frame first body).getD 1 0 &&& 0x80 = 0 ↔ body.length < 128 := by
  rw [(byte_mod _).2, frame, List.getD_cons_succ]
  by_cases hSmall : body.length < 128
  · rw [encode_of_lt hSmall]
    exact iff_of_true (lt_of_digit hSmall) hSmall
  · rw [encode_of_le (Nat.not_lt.mp hSmall)]
    exact iff_of_false (not_lt_of_continued _) hSmall

/-- The types whose identifier stands right behind the remaining length. -/
def MessageType.HasId : MessageType → Prop
  | puback | pubrec | pubrel | pubcomp | subscribe | suback | unsubscribe | unsuback => True
  | _ => False

theorem getId_frame {type : MessageType} (hType : type.HasId) {first : UInt8} {id : Nat}
    (hId : id < 65536) (rest : List UInt8)
    (hFirst : getType (frame first (bigEndian id ++ rest)) = some type) :
    mqttGetId (frame first (bigEndian id ++ rest)) (frame first (bigEndian id ++ rest)).length =
      if (frame first (bigEndian id ++ rest)).length < 130 then id else 0 := by
  have hLong : 4 ≤ (frame first (bigEndian id ++ rest)).length := by
    have hPos := List.length_pos_iff.mpr (encode_ne_nil (bigEndian id ++ rest).length)
    rw [frame_length, headerLength, List.length_append, bigEndian_length] at *
    omega
  have hTest : ((frame first (bigEndian id ++ rest)).length ≥ 4 ∧
      (frame first (bigEndian id ++ rest)).getD 1 0 &&& 0x80 = 0) ↔
      (frame first (bigEndian id ++ rest)).length < 130 := by
    rw [frame_lengthByte, frame_short, and_iff_right hLong]
  have hRead : mqttGetId (frame first (bigEndian id ++ rest))
      (frame first (bigEndian id ++ rest)).length =
      if (frame first (bigEndian id ++ rest)).length ≥ 4 ∧
        (frame first (bigEndian id ++ rest)).getD 1 0 &&& 0x80 = 0 then
        twoBytes (frame first (bigEndian id ++ rest)) 2 else 0 := by
    rw [mqttGetId, if_neg (by omega), hFirst]
    cases type with
    | puback | pubrec | pubrel | pubcomp | subscribe | suback | unsubscribe | unsuback => rfl
    | _ => exact hType.elim
  rw [hRead]
  by_cases hShort : (frame first (bigEndian id ++ rest)).length < 130
  · have hHeader : headerLength (bigEndian id ++ rest) = 2 := by
      rw [headerLength, encode_length_eq_one.mpr (frame_short.mp hShort)]
    have hTwo := twoBytes_frame first (bigEndian id ++ rest) 0
    rw [hHeader] at hTwo
    rw [if_pos (hTest.mpr hShort), if_pos hShort, hTwo]
    exact twoBytes_bigEndian [] rest hId
  · rw [if_neg fun h => hShort (hTest.mp h), if_neg hShort]

/-- A length that is left over is the one of an earlier message. -/
def Remains (c : MqttConnection) : Prop :=
  c.message.fragmentedMsgTotalLength ≠ 0 →
    MQTT_MAX_FIXED_HEADER_SIZE ≤ c.message.fragmentedMsgTotalLength ∧
      c.message.fragmentedMsgTotalLength < MQTT_MAX_FIXED_HEADER_SIZE + 128 ^ 4

/-- No other length than that of the message stands in its header. -/
def RightLength (total : Nat) (body : List UInt8) : Prop :=
  total = 0 ∨ total = MQTT_MAX_FIXED_HEADER_SIZE + body.length

instance (total : Nat) (body : List UInt8) : Decidable (RightLength total body) :=
  inferInstanceAs (Decidable (_ ∨ _))

/-- What is built is a frame, or its length is not the one that its header has. -/
theorem finiMessage_remains (h : Remains c) {body : List UInt8} (hSize : body.length < 128 ^ 4)
    (type : MessageType) (dup qos retain : Nat) :
    (finiMessage c body type dup qos retain).message.data ≠ [] ∧
    (RightLength c.message.fragmentedMsgTotalLength body →
      (finiMessage c body type dup qos retain).message.data =
        frame (typeByte type dup qos retain) body) ∧
    (¬ RightLength c.message.fragmentedMsgTotalLength body →
      (mqttGetTotalLength (finiMessage c body type dup qos retain).message.data
        (finiMessage c body type dup qos retain).message.data.length).1 ≠
          (finiMessage c body type dup qos retain).message.data.length) := by
  rw [Remains, MQTT_MAX_FIXED_HEADER_SIZE] at h
  by_cases hZero : c.message.fragmentedMsgTotalLength = 0
  · rw [finiMessage_whole hZero hSize]
    exact ⟨List.cons_ne_nil _ _, fun _ => rfl, fun hWrong => absurd (Or.inl hZero) hWrong⟩
  obtain ⟨hLow, hHigh⟩ := h hZero
  obtain ⟨n, hn⟩ := Nat.exists_eq_add_of_le hLow
  have hTotal : (if c.message.fragmentedMsgTotalLength ≠ 0 then
      c.message.fragmentedMsgTotalLength - MQTT_MAX_FIXED_HEADER_SIZE else body.length) = n := by
    rw [if_pos hZero, hn, MQTT_MAX_FIXED_HEADER_SIZE, Nat.add_sub_cancel_left]
  have hRight : RightLength c.message.fragmentedMsgTotalLength body ↔ n = body.length := by
    rw [RightLength, or_iff_right hZero, hn, MQTT_MAX_FIXED_HEADER_SIZE, Nat.add_left_cancel_iff]
  rw [finiMessage_eq c body type dup qos retain (by omega) hTotal, hRight]
  dsimp only
  refine ⟨List.cons_ne_nil _ _, ?_, fun hWrong => ?_⟩
  · rintro rfl
    rfl
  · have hRoom : 1 + (encode n).length ≤
        (typeByte type dup qos retain :: (encode n ++ body)).length := by
      rw [List.length_cons, List.length_append]
      omega
    rw [mqttGetTotalLength, fixedHeader_encode _ n body hRoom, List.length_cons,
      List.length_append]
    dsimp only
    omega

/-- A control message that fits into the buffer is well formed and is read as it was meant, if and
only if no other length is left over; the identifier of a subscription is lost behind a long
topic. -/
theorem Control.reads_iff (m : Control) (random : MessageId) {c : MqttConnection}
    (hRemains : Remains c) (hSize : (m.body random).length < 128 ^ 4)
    (hRoom : MQTT_MAX_FIXED_HEADER_SIZE + (m.body random).length ≤ c.bufferLength) :
    m.Reads random (m.build random c).message.data ↔
      RightLength c.message.fragmentedMsgTotalLength (m.body random) := by
  obtain ⟨-, hFrame, hWrong⟩ := finiMessage_remains hRemains hSize m.type 0 m.type.flags 0
  rw [m.build_eq hRoom]
  refine ⟨fun h => by_contra fun hNot => hWrong hNot h.total, fun hLength => ?_⟩
  rw [hFrame hLength]
  obtain ⟨hType, hValid⟩ := valid_control m.type_ne_publish (encode (m.body random).length ++
    m.body random)
  refine ⟨hType, hValid, ?_, ?_⟩
  · have hHeader : headerLength (m.body random) ≤
        (frame (typeByte m.type 0 m.type.flags 0) (m.body random)).length := by
      rw [frame_length]
      exact Nat.le_add_right _ _
    have hTotal := mqttGetTotalLength_frame (typeByte m.type 0 m.type.flags 0) _ [] hHeader
    rw [List.append_nil] at hTotal
    rw [hTotal]
  · cases hId : m.id? random with
    | some id =>
      have hHas : m.type.HasId := by cases m <;> trivial
      have hBody : m.body random = bigEndian id ++ m.rest := by rw [Control.body, hId]; rfl
      rw [hBody] at hType ⊢
      exact getId_frame hHas (Control.id_lt hId) m.rest hType
    | none =>
      rw [Option.getD_none, ite_self, mqttGetId]
      split
      · rfl
      · rw [frame, hType]
        cases m <;> first | rfl | cases hId

end FcomGateway.Mqtt
