import FcomGateway.MqttConnect
import FcomGateway.MqttPublish

/-! # The output buffer in the life of a client

All messages are built in one buffer. A message that does not fit leaves its offset there, which the
next publication takes for its own, and its length, which stands in the header of whatever is built
next. A publication takes them back when it was sent; where it is given up they stay.
-/

namespace FcomGateway.Mqtt

open Varint

/-- A publication, with the memory that there is for its item. -/
structure PublishCall where
  message : Publish
  random : MessageId
  draws : message.Draws random
  size : message.body.length < 128 ^ 4
  memory : Bool

namespace PublishCall

def publish (call : PublishCall) (online : Option (List Int)) (c : MqttConnection) :
    Option Sent × MqttConnection :=
  clientPublish call.random call.memory online c call.message.topic call.message.data
    call.message.qos call.message.retain

/-- `esp_mqtt_client_enqueue` -/
def enqueue (call : PublishCall) (store : Bool) (c : MqttConnection) : MqttConnection :=
  (clientEnqueue call.random call.memory store c call.message.topic call.message.data
    call.message.qos call.message.retain).2

/-- The buffer takes the header and not all of the payload. -/
def Oversized (call : PublishCall) (bufferLength : Nat) : Prop :=
  call.message.headerRoom ≤ bufferLength ∧
    bufferLength < call.message.headerRoom + call.message.data.length

end PublishCall

/-- What a client does with its output buffer. -/
inductive BufferUse
  | publish (call : PublishCall) (online : Option (List Int))
  | enqueue (call : PublishCall) (store : Bool)
  | control (random : MessageId) (m : Control)
  | connect (info : ConnectInfo)
  | resend (item : List UInt8)

def BufferUse.next (c : MqttConnection) : BufferUse → MqttConnection
  | publish call online => (call.publish online c).2
  | enqueue call store => call.enqueue store c
  | control random m => m.build random c
  | connect info => mqttMsgConnect c info
  | resend item => { c with message := { c.message with data := item } }

def bufferRun (c : MqttConnection) (uses : List BufferUse) : MqttConnection :=
  uses.foldl BufferUse.next c

/-! ## What no message changes -/

structure StableUnderBuild (P : MqttConnection → Prop) : Prop where
  data : ∀ c, P c → ∀ data, P { c with message := { c.message with data := data } }
  fini : ∀ c, P c → ∀ body type dup qos retain, P (finiMessage c body type dup qos retain)

namespace StableUnderBuild

variable {P : MqttConnection → Prop} (h : StableUnderBuild P) {c : MqttConnection} (hc : P c)

include h hc

theorem idMessage (random : MessageId) (type : MessageType) (qos messageId : Nat) :
    P (idMessage random c type qos messageId) := by
  rw [Mqtt.idMessage.eq_def]
  split
  · exact h.data c hc []
  · exact h.fini c hc _ _ _ _ _

theorem topicMessage (random : MessageId) (type : MessageType) (topic rest : List UInt8) :
    P (topicMessage random c type topic rest).1 := by
  rw [Mqtt.topicMessage.eq_def]
  split
  · exact h.data c hc []
  · split
    · exact h.data c hc []
    · split
      · exact h.data c hc []
      · split
        · exact h.data c hc []
        · exact h.fini c hc _ _ _ _ _

theorem control (random : MessageId) (m : Control) : P (m.build random c) := by
  cases m with
  | puback id | pubrec id | pubrel id | pubcomp id => exact h.idMessage hc _ _ _ _
  | subscribe topic named qos => exact h.topicMessage hc _ _ _ _
  | unsubscribe topic named => exact h.topicMessage hc _ _ _ _
  | pingreq | pingresp | disconnect => exact h.fini c hc _ _ _ _ _

theorem connect (info : ConnectInfo) : P (mqttMsgConnect c info) := by
  rw [mqttMsgConnect_eq]
  split
  · exact h.fini c hc _ _ _ _ _
  · exact h.data c hc []

end StableUnderBuild

/-! ## The length that is left -/

/-- What a publication leaves, where `taken` is whether it takes the length of a larger one back. -/
def PublishCall.left (call : PublishCall) (bufferLength : Nat) (taken : Bool) (before : Nat) :
    Nat :=
  if bufferLength < call.message.headerRoom then before
  else if bufferLength < call.message.headerRoom + call.message.data.length ∧ taken = false then
    MQTT_MAX_FIXED_HEADER_SIZE + call.message.body.length
  else 0

/-- A publication that is not sent leaves its length if there was no memory for it, and a message
that is only put into the outbox also if it is not kept there. -/
def BufferUse.left (bufferLength before : Nat) : BufferUse → Nat
  | publish call _ => call.left bufferLength (call.message.qos = 0 || call.memory) before
  | enqueue call store =>
    call.left bufferLength ((decide (call.message.qos > 0) || store) && call.memory) before
  | control _ _ | connect _ | resend _ => before

/-- The length that some uses leave in a buffer which had none. -/
def leftOver (bufferLength : Nat) (uses : List BufferUse) : Nat :=
  uses.foldl (BufferUse.left bufferLength) 0

/-- The length that is left, in a buffer of a fixed size. -/
structure Leaves (bufferLength total : Nat) (c : MqttConnection) : Prop where
  buffer : c.bufferLength = bufferLength
  total : c.message.fragmentedMsgTotalLength = total

namespace Leaves

variable {bufferLength total : Nat} {c : MqttConnection}

theorem stable (bufferLength total : Nat) : StableUnderBuild (Leaves bufferLength total) where
  data c h _ := ⟨h.buffer, h.total⟩
  fini c h body type dup qos retain := by
    rw [finiMessage]
    dsimp only
    generalize (if c.message.fragmentedMsgTotalLength ≠ 0 then _ else body.length) = total
    split <;> exact ⟨h.buffer, h.total⟩

theorem sendMessage (hBuffer : c.bufferLength = bufferLength) (returns : List Int)
    (data : List UInt8) : Leaves bufferLength 0 (sendMessage returns c data).2 := by
  rw [Mqtt.sendMessage]
  dsimp only
  split
  · split
    · exact ⟨hBuffer, rfl⟩
    · split <;> exact ⟨hBuffer, rfl⟩
  · exact ⟨hBuffer, rfl⟩

theorem oversized_length (call : PublishCall) :
    call.message.data.length + call.message.headerRoom =
      MQTT_MAX_FIXED_HEADER_SIZE + call.message.body.length := by
  rw [Publish.headerRoom, Publish.body, List.length_append]
  omega

theorem publish (h : Leaves bufferLength total c) (call : PublishCall)
    (online : Option (List Int)) : Leaves bufferLength
      (call.left bufferLength (call.message.qos = 0 || call.memory) total)
      (call.publish online c).2 := by
  obtain ⟨rfl, rfl⟩ := h
  rw [PublishCall.publish, PublishCall.left]
  split
  · rename_i hShort
    rw [Publish.clientPublish_fails call.draws hShort]
    exact ⟨rfl, rfl⟩
  rename_i hHeader
  have hGivenUp : (call.message.qos = 0 || call.memory) = false ↔
      call.message.qos > 0 ∧ call.memory = false := by
    rw [Bool.or_eq_false_iff, decide_eq_false_iff_not, gt_iff_lt, Nat.pos_iff_ne_zero]
  simp only [hGivenUp]
  by_cases hRoom : c.bufferLength < call.message.headerRoom + call.message.data.length
  · simp only [hRoom, true_and]
    rw [Publish.clientPublish_oversized call.draws call.size (Nat.not_lt.mp hHeader) hRoom]
    split
    · exact ⟨rfl, oversized_length call⟩
    · split
      · exact ⟨rfl, rfl⟩
      · exact sendMessage (c := call.message.builtPart c 0) rfl _ _
  · rw [if_neg fun h => hRoom h.1,
      Publish.clientPublish_fits call.draws call.size (Nat.not_lt.mp hRoom)]
    split
    · exact ⟨rfl, rfl⟩
    · split
      · exact ⟨rfl, rfl⟩
      · exact sendMessage (c := call.message.built c) rfl _ _

theorem enqueue (h : Leaves bufferLength total c) (call : PublishCall) (store : Bool) :
    Leaves bufferLength
      (call.left bufferLength ((decide (call.message.qos > 0) || store) && call.memory) total)
      (call.enqueue store c) := by
  obtain ⟨rfl, rfl⟩ := h
  rw [PublishCall.enqueue, PublishCall.left]
  split
  · rename_i hShort
    rw [Publish.clientEnqueue_fails call.draws hShort]
    exact ⟨rfl, rfl⟩
  rename_i hHeader
  have hKept : ((decide (call.message.qos > 0) || store) && call.memory) = false ↔
      ¬ ((call.message.qos > 0 ∨ store = true) ∧ call.memory = true) := by
    simp only [Bool.and_eq_false_iff, Bool.or_eq_false_iff, decide_eq_false_iff_not]
    grind
  simp only [hKept]
  by_cases hRoom : c.bufferLength < call.message.headerRoom + call.message.data.length
  · simp only [hRoom, true_and, ite_not]
    rw [Publish.clientEnqueue_oversized call.draws call.size (Nat.not_lt.mp hHeader) hRoom,
      oversized_length]
    exact ⟨rfl, rfl⟩
  · rw [if_neg fun h => hRoom h.1,
      Publish.clientEnqueue_fits call.draws call.size (Nat.not_lt.mp hRoom)]
    exact ⟨rfl, rfl⟩

theorem next (h : Leaves bufferLength total c) (use : BufferUse) :
    Leaves bufferLength (use.left bufferLength total) (use.next c) := by
  cases use with
  | publish call online => exact h.publish call online
  | enqueue call store => exact h.enqueue call store
  | control random m => exact (stable bufferLength total).control h random m
  | connect info => exact (stable bufferLength total).connect h info
  | resend item => exact (stable bufferLength total).data c h item

theorem run (h : Leaves bufferLength total c) (uses : List BufferUse) :
    Leaves bufferLength (uses.foldl (BufferUse.left bufferLength) total) (bufferRun c uses) := by
  induction uses generalizing c total with
  | nil => exact h
  | cons use uses ih => exact ih (h.next use)

end Leaves

theorem PublishCall.left_remains (call : PublishCall) (bufferLength : Nat) (taken : Bool)
    {before : Nat} (h : before ≠ 0 → MQTT_MAX_FIXED_HEADER_SIZE ≤ before ∧
      before < MQTT_MAX_FIXED_HEADER_SIZE + 128 ^ 4) :
    call.left bufferLength taken before ≠ 0 →
      MQTT_MAX_FIXED_HEADER_SIZE ≤ call.left bufferLength taken before ∧
        call.left bufferLength taken before < MQTT_MAX_FIXED_HEADER_SIZE + 128 ^ 4 := by
  have hSize := call.size
  rw [left]
  split
  · exact h
  · split
    · exact fun _ => ⟨Nat.le_add_right _ _, Nat.add_lt_add_left hSize _⟩
    · exact fun hZero => absurd rfl hZero

theorem left_remains (bufferLength : Nat) (uses : List BufferUse) {before : Nat}
    (h : before ≠ 0 → MQTT_MAX_FIXED_HEADER_SIZE ≤ before ∧
      before < MQTT_MAX_FIXED_HEADER_SIZE + 128 ^ 4) :
    uses.foldl (BufferUse.left bufferLength) before ≠ 0 →
      MQTT_MAX_FIXED_HEADER_SIZE ≤ uses.foldl (BufferUse.left bufferLength) before ∧
        uses.foldl (BufferUse.left bufferLength) before <
          MQTT_MAX_FIXED_HEADER_SIZE + 128 ^ 4 := by
  induction uses generalizing before with
  | nil => exact h
  | cons use uses ih =>
    refine ih ?_
    cases use with
    | publish call online => exact call.left_remains bufferLength _ h
    | enqueue call store => exact call.left_remains bufferLength _ h
    | control random m | connect info | resend item => exact h

/-- Of a client that has built nothing yet. -/
theorem bufferRun_leaves {c : MqttConnection} (hFirst : c.Whole) (uses : List BufferUse) :
    Leaves c.bufferLength (leftOver c.bufferLength uses) (bufferRun c uses) ∧
      Remains (bufferRun c uses) := by
  have hRun := Leaves.run ⟨rfl, hFirst⟩ uses
  refine ⟨hRun, ?_⟩
  rw [Remains, hRun.total]
  exact left_remains c.bufferLength uses fun hZero => absurd rfl hZero

/-! ## The offset that is left -/

/-- A larger message was stored, where it had to be, and its first write went through. -/
def BufferUse.Settled (bufferLength : Nat) : BufferUse → Prop
  | publish call online => call.Oversized bufferLength →
    (call.message.qos > 0 → call.memory = true) ∧ ∃ returns, online = some returns ∧
      (espMqttWrite returns ((call.message.bytes 0).take
        (call.message.dataStart + (bufferLength - call.message.headerRoom)))).ok = true
  | enqueue call _ => ¬ call.Oversized bufferLength
  | control _ _ | connect _ | resend _ => True

/-- The offset that no message has left behind. -/
structure Clear (bufferLength : Nat) (c : MqttConnection) : Prop where
  buffer : c.bufferLength = bufferLength
  offset : c.message.fragmentedMsgDataOffset ≤ 0

namespace Clear

variable {bufferLength : Nat} {c : MqttConnection} (h : Clear bufferLength c)

theorem stable (bufferLength : Nat) : StableUnderBuild (Clear bufferLength) where
  data c h _ := ⟨h.buffer, h.offset⟩
  fini c h body type dup qos retain := by
    have hOffset := h.offset
    rw [finiMessage]
    dsimp only
    generalize (if c.message.fragmentedMsgTotalLength ≠ 0 then _ else body.length) = total
    split
    · exact ⟨h.buffer, h.offset⟩
    · refine ⟨h.buffer, ?_⟩
      dsimp only
      omega

/-- A first write that goes through takes the offset back. -/
theorem of_sent {returns : List Int} (hBuffer : c.bufferLength = bufferLength)
    (hSent : (espMqttWrite returns c.message.data).ok = true) (data : List UInt8) :
    Clear bufferLength (sendMessage returns c data).2 := by
  rw [Mqtt.sendMessage, if_pos hSent]
  extract_lets dataSent next
  split
  · exact ⟨hBuffer, le_rfl⟩
  · split
    · exact ⟨hBuffer, le_rfl⟩
    · exact ⟨hBuffer, le_rfl⟩

include h

theorem failMessage : Clear bufferLength (failMessage c) := (stable bufferLength).data c h []

theorem settle {offset : Int} (hOffset : offset ≤ 0) : Clear bufferLength (c.settle offset) :=
  ⟨h.buffer, hOffset⟩

theorem sendMessage (returns : List Int) (data : List UInt8) :
    Clear bufferLength (sendMessage returns c data).2 := by
  by_cases hSent : (espMqttWrite returns c.message.data).ok = true
  · exact of_sent h.buffer hSent data
  · rw [Publish.sendMessage_failed hSent]
    exact h.settle h.offset

theorem built (p : Publish) : Clear bufferLength (p.built c) := by
  have hOffset := h.offset
  refine ⟨h.buffer, ?_⟩
  rw [Publish.built]
  dsimp only
  omega

theorem publish {call : PublishCall} {online : Option (List Int)}
    (hSettled : (BufferUse.publish call online).Settled bufferLength) :
    Clear bufferLength (call.publish online c).2 := by
  obtain ⟨rfl, hOffset⟩ := h
  rw [PublishCall.publish]
  rcases Nat.lt_or_ge c.bufferLength call.message.headerRoom with hShort | hHeader
  · rw [Publish.clientPublish_fails call.draws hShort]
    exact failMessage ⟨rfl, hOffset⟩
  by_cases hRoom : c.bufferLength < call.message.headerRoom + call.message.data.length
  · obtain ⟨hMemory, returns, rfl, hSent⟩ := hSettled ⟨hHeader, hRoom⟩
    have hTaken : ¬ (call.message.qos > 0 ∧ call.memory = false) := by
      rintro ⟨hQos, hNone⟩
      rw [hMemory hQos] at hNone
      cases hNone
    rw [Publish.clientPublish_oversized call.draws call.size hHeader hRoom, if_neg hTaken]
    exact of_sent (c := call.message.builtPart c 0) rfl hSent _
  · have hBuilt := built ⟨rfl, hOffset⟩ call.message
    rw [Publish.clientPublish_fits call.draws call.size (Nat.not_lt.mp hRoom)]
    split
    · exact hBuilt
    · cases online with
      | none => exact hBuilt.settle hBuilt.offset
      | some returns => exact hBuilt.sendMessage returns _

theorem enqueue {call : PublishCall} (hSettled : ¬ call.Oversized bufferLength) (store : Bool) :
    Clear bufferLength (call.enqueue store c) := by
  obtain ⟨rfl, hOffset⟩ := h
  rw [PublishCall.enqueue]
  rcases Nat.lt_or_ge c.bufferLength call.message.headerRoom with hShort | hHeader
  · rw [Publish.clientEnqueue_fails call.draws hShort]
    exact failMessage ⟨rfl, hOffset⟩
  · have hRoom : call.message.headerRoom + call.message.data.length ≤ c.bufferLength :=
      Nat.not_lt.mp fun hLarge => hSettled ⟨hHeader, hLarge⟩
    rw [Publish.clientEnqueue_fits call.draws call.size hRoom]
    exact built ⟨rfl, hOffset⟩ call.message

theorem next {use : BufferUse} (hSettled : use.Settled bufferLength) :
    Clear bufferLength (use.next c) := by
  cases use with
  | publish call online => exact h.publish hSettled
  | enqueue call store => exact h.enqueue hSettled store
  | control random m => exact (stable bufferLength).control h random m
  | connect info => exact (stable bufferLength).connect h info
  | resend item => exact (stable bufferLength).data c h item

/-- Behind a clear offset every message is delivered. -/
theorem delivered (call : PublishCall) (online : Option (List Int)) :
    call.message.Delivered (call.publish online c).1 := by
  have hOffset := h.offset
  rw [PublishCall.publish]
  cases online with
  | some returns =>
    refine (call.message.delivers_iff call.draws call.size call.memory).mpr ?_ returns
    exact Or.inr (Or.inr (by omega))
  | none =>
    rw [clientPublish]
    split
    · exact ⟨List.nil_prefix, fun hOk => by cases hOk⟩
    · exact ⟨List.nil_prefix, fun hOk => by cases hOk⟩

end Clear

theorem bufferRun_clear {bufferLength : Nat} {c : MqttConnection} (h : Clear bufferLength c)
    {uses : List BufferUse} (hSettled : ∀ use ∈ uses, use.Settled bufferLength) :
    Clear bufferLength (bufferRun c uses) := by
  induction uses generalizing c with
  | nil => exact h
  | cons use uses ih =>
    obtain ⟨hUse, hUses⟩ := List.forall_mem_cons.mp hSettled
    exact ih (h.next hUse) hUses

/-! ## What is built later -/

/-- In the life of a client a message is delivered, whatever the writes return, if every larger
one before it was sent with its first write at least. -/
theorem bufferRun_delivered {c : MqttConnection}
    (hFirst : c.message.fragmentedMsgDataOffset ≤ 0) {uses : List BufferUse}
    (hSettled : ∀ use ∈ uses, use.Settled c.bufferLength) (call : PublishCall)
    (online : Option (List Int)) :
    call.message.Delivered (call.publish online (bufferRun c uses)).1 := by
  have hClear : Clear c.bufferLength c := ⟨rfl, hFirst⟩
  exact (bufferRun_clear hClear hSettled).delivered call online

/-- Whatever a client has built and sent before: a control message that fits into the buffer is well
formed and is read as it was meant, if and only if no other length is left over. -/
theorem control_roundTrip (m : Control) (random : MessageId) {c : MqttConnection}
    (hFirst : c.Whole) (uses : List BufferUse) (hSize : (m.body random).length < 128 ^ 4)
    (hRoom : MQTT_MAX_FIXED_HEADER_SIZE + (m.body random).length ≤ c.bufferLength) :
    m.Reads random (m.build random (bufferRun c uses)).message.data ↔
      RightLength (leftOver c.bufferLength uses) (m.body random) := by
  obtain ⟨hLeaves, hRemains⟩ := bufferRun_leaves hFirst uses
  rw [← hLeaves.total]
  exact m.reads_iff random hRemains hSize (by rw [hLeaves.buffer]; exact hRoom)

/-- The message that opens a connection, behind everything that a client has built before: none is
built exactly if the buffer is too short for it, and what is built says what was configured exactly
if no other length is left over. -/
theorem connect_roundTrip {info : ConnectInfo} (h : info.Short) {c : MqttConnection}
    (hFirst : c.Whole) (uses : List BufferUse) :
    ((mqttMsgConnect (bufferRun c uses) info).message.data = [] ↔
      c.bufferLength < MQTT_MAX_FIXED_HEADER_SIZE + (info.laid info.flags info.payload).length) ∧
    ((mqttMsgConnect (bufferRun c uses) info).message.data ≠ [] →
      (ConnectReads info (mqttMsgConnect (bufferRun c uses) info).message.data ↔
        RightLength (leftOver c.bufferLength uses) (info.laid info.flags info.payload))) := by
  obtain ⟨hLeaves, hRemains⟩ := bufferRun_leaves hFirst uses
  rw [← hLeaves.total, ← hLeaves.buffer]
  exact mqttMsgConnect_reads h hRemains

/-! ## A client with a small buffer -/

def sampleBuffer : MqttConnection := ⟨⟨[], 0, 0⟩, 40⟩

/-- A message of 64 bytes, more than the buffer takes. -/
def sampleLong : Publish := { samplePublished with data := List.replicate 64 0x31 }

def longCall (memory : Bool) : PublishCall :=
  ⟨sampleLong, sampleId, fun _ => rfl, by decide, memory⟩

/-- Without memory the length of the message is left over. -/
example : leftOver 40 [.publish (longCall false) none, .control sampleId .pingreq] = 74 := by decide

/-- A connection, a large message that is sent in part, one that is sent again and a ping. -/
def sampleUses : List BufferUse :=
  [.connect sampleConnect, .publish (longCall true) (some [37, 30, 0]),
    .resend (sampleLong.bytes 1), .control sampleId .pingreq]

theorem longCall_delivered : sampleLong.Delivered
    ((longCall true).publish (some [20, 17, 34, 0]) (bufferRun sampleBuffer sampleUses)).1 := by
  refine bufferRun_delivered le_rfl (fun use hUse => ?_) (longCall true) (some [20, 17, 34, 0])
  simp only [sampleUses, List.mem_cons, List.not_mem_nil, or_false] at hUse
  rcases hUse with rfl | rfl | rfl | rfl
  · trivial
  · exact fun _ => ⟨fun _ => rfl, _, rfl, by decide +kernel⟩
  · trivial
  · trivial

theorem puback_roundTrip : (Control.puback 5).Reads sampleId
    ((Control.puback 5).build sampleId (bufferRun sampleBuffer sampleUses)).message.data := by
  have hFirst : sampleBuffer.Whole := rfl
  exact (control_roundTrip (.puback 5) sampleId hFirst sampleUses (by decide) (by decide)).mpr
    (by decide +kernel)

theorem sampleConnect_read : ConnectReads sampleConnect
    (mqttMsgConnect (bufferRun sampleBuffer sampleUses) sampleConnect).message.data := by
  have hFirst : sampleBuffer.Whole := rfl
  exact ((connect_roundTrip sampleConnect_short hFirst sampleUses).2 (by decide +kernel)).mpr
    (by decide +kernel)

end FcomGateway.Mqtt
