import FcomGateway.CJsonRoundTrip
import FcomGateway.MqttBuffer
import FcomGateway.OutgoingText

/-! # What the server reads of a packet

`mqtt_send_task` has a packet printed into its buffer and publishes the text. The message that the
client puts into its outbox is read as this text, and the text as the tree that was built.
-/

namespace FcomGateway.OutgoingText

open CJson HexText Mqtt

def QOS_PKG_IMPORTANT : Nat := 1

/-! ## The packets as trees -/

def sensorRoot (state bat : List UInt8) (online : Bool) (random : Uuid) (d : SensorData)
    (subId : UInt8) : CJson :=
  .object [requestId random, (literal "sub_id", .string (subIdText d subId)),
    (literal "states", sensorStates state bat online)]

def errorMessage (sensorError : UInt8) : List UInt8 :=
  literal "Sensor " ++ decimal sensorError.toNat ++ literal " lost connection"

/-- What the packet of a call is meant to say. -/
def OutgoingCall.root (s : OutgoingState) : OutgoingCall → Option CJson
  | sensorData random subId =>
    some (sensorRoot (ssState (s.gateway.sensorData.dtorSensorState subId.toNat))
      (ssBat (s.gateway.sensorData.dtorBatState subId.toNat)) true random s.gateway.sensorData
      subId)
  | gatewayData random =>
    some (.object [requestId random, (literal "states", gatewayStates s)])
  | error random subId =>
    some (.object [requestId random, (literal "error_code", .string (literal "E0001")),
      (literal "message", .string (errorMessage subId))])
  | sensorError random subId =>
    some (sensorRoot (ssState .normalSt) (ssBat .high) false random s.gateway.sensorData subId)
  | fbSsProcess random _ =>
    some (.object [requestId random, (literal "action", .string (literal "add")),
      (literal "devices", .array [addedDevice
        (subIdText s.gateway.sensorData (UInt8.ofNat s.gateway.sensorData.curDetector))])])
  | jobRequestedFeedback random =>
    some (.object [requestId random,
      (literal "commands", .object [(CMD_GW_RECEIVE_ADD_SUB, .bool true)])])
  | announce | sFrame _ | topics | post _ | bleNotification _ => none

/-- The topic that `mqtt_send_task` publishes a packet on; the packet of the sensor that is lost
has none. -/
def OutgoingCall.destination (clientId : ConfigText 33) : OutgoingCall → Option (List UInt8)
  | sensorData _ _ => topic "stag/gw/6DVZ8TLF/" clientId "/dt"
  | gatewayData _ => topic "stag/dt/6DVZ8TLF/" clientId ""
  | sensorError _ _ => topic "stag/gw/6DVZ8TLF/" clientId "/dt/error"
  | fbSsProcess _ _ => topic "stag/gw/6DVZ8TLF/" clientId "/devices"
  | jobRequestedFeedback _ => topic "stag/cmd/6DVZ8TLF/" clientId "/status"
  | error _ _ | announce | sFrame _ | topics | post _ | bleNotification _ => none

/-! ## Trees that are shown in full -/

section Whole

variable (printNumber : List UInt8 → List UInt8)

def Whole (item : CJson) : Prop := shown printNumber item = item

def MembersWhole (members : List (List UInt8 × CJson)) : Prop :=
  shownMembers printNumber members = members

variable {printNumber} {name value : List UInt8} {item : CJson}
  {members : List (List UInt8 × CJson)}

theorem whole_string (h : ∀ b ∈ value, b ≠ 0) : Whole printNumber (.string value) := by
  rw [Whole, shown, cString_eq_self h]

theorem whole_plain (h : value.all isPlain = true) : Whole printNumber (.string value) :=
  whole_string (plain_nonzero h)

theorem whole_bool (b : Bool) : Whole printNumber (.bool b) := rfl

theorem whole_array (h : Whole printNumber item) : Whole printNumber (.array [item]) := by
  rw [Whole] at h ⊢
  rw [shown, shownElements, shownElements, h]

theorem whole_object (h : MembersWhole printNumber members) :
    Whole printNumber (.object members) := by
  rw [MembersWhole] at h
  rw [Whole, shown, h]

theorem membersWhole_nil : MembersWhole printNumber [] := rfl

theorem membersWhole_cons (hName : name.all isPlain = true) (hItem : Whole printNumber item)
    (hRest : MembersWhole printNumber members) :
    MembersWhole printNumber ((name, item) :: members) := by
  rw [Whole] at hItem
  rw [MembersWhole] at hRest ⊢
  rw [shownMembers, hItem, hRest, cString_eq_self (plain_nonzero hName)]

end Whole

theorem uuidUnparse_nonzero (u : Uuid) : ∀ b ∈ uuidUnparse u, b ≠ 0 := by
  have hDigit : ∀ b : UInt8, IsHexDigit b → b ≠ 0 := forall_byte (by decide +kernel)
  exact fun b hb => hDigit b (uuidUnparse_digits hb)

theorem decimal_nonzero (n : Nat) : ∀ b ∈ decimal n, b ≠ 0 := by
  intro b hb
  obtain ⟨c, hc, rfl⟩ := List.mem_map.mp hb
  have hDigit : 48 ≤ c.toNat ∧ c.toNat ≤ 57 :=
    Char.isDigit_iff_toNat.mp (Nat.isDigit_of_mem_toDigits (by decide) le_rfl hc)
  have hSmall : (UInt8.ofNat c.toNat).toNat = c.toNat := 
    UInt8.toNat_ofNat_of_lt' (hDigit.2.trans_lt (by decide))
  rw [Ne, ← UInt8.toNat_inj, hSmall]
  change c.toNat ≠ 0
  omega

theorem errorMessage_nonzero (sensorError : UInt8) : ∀ b ∈ errorMessage sensorError, b ≠ 0 := by
  rw [errorMessage, List.forall_mem_append, List.forall_mem_append]
  exact ⟨⟨plain_nonzero (by decide), decimal_nonzero _⟩, plain_nonzero (by decide)⟩

theorem subIdText_nonzero (d : SensorData) (subId : UInt8) : ∀ b ∈ subIdText d subId, b ≠ 0 :=
  fun _ hb => mem_dotted hb

/-! ## The texts -/

section Packets

variable {printNumber : List UInt8 → List UInt8} {random : Uuid}

theorem requestId_whole {rest : List (List UInt8 × CJson)}
    (hRest : MembersWhole printNumber rest) :
    MembersWhole printNumber (requestId random :: rest) :=
  membersWhole_cons (by decide) (whole_string (uuidUnparse_nonzero _)) hRest

theorem sensorStates_whole {state bat : List UInt8} (online : Bool)
    (hState : state.all isPlain = true) (hBat : bat.all isPlain = true) :
    Whole printNumber (sensorStates state bat online) :=
  whole_object
    (membersWhole_cons (by decide) (whole_plain hState)
      (membersWhole_cons (by decide) (whole_plain hBat)
        (membersWhole_cons (by decide) (whole_bool online) membersWhole_nil)))

theorem sensorRoot_whole {state bat : List UInt8} (online : Bool) (d : SensorData)
    (subId : UInt8) (hState : state.all isPlain = true) (hBat : bat.all isPlain = true) :
    Whole printNumber (sensorRoot state bat online random d subId) :=
  whole_object
    (requestId_whole
      (membersWhole_cons (by decide) (whole_string (subIdText_nonzero d subId))
        (membersWhole_cons (by decide) (sensorStates_whole online hState hBat)
          membersWhole_nil)))

theorem gatewayStates_whole (s : OutgoingState) : Whole printNumber (gatewayStates s) :=
  whole_object
    (membersWhole_cons (by decide) (whole_plain (gwStatus_room _).1)
      (membersWhole_cons (by decide) (whole_plain (ssBat_room .high).1)
        (membersWhole_cons (by decide) (whole_plain (gwConnectInfo_room _).1)
          (membersWhole_cons (by decide) (whole_string s.fwInfo.nonzero) membersWhole_nil))))

theorem addedDevice_whole {text : List UInt8} (h : ∀ b ∈ text, b ≠ 0) :
    Whole printNumber (addedDevice text) :=
  whole_object
    (membersWhole_cons (by decide) (whole_string h)
      (membersWhole_cons (by decide) (whole_plain (by decide)) membersWhole_nil))

theorem root_whole {s : OutgoingState} {call : OutgoingCall} {root : CJson}
    (h : call.root s = some root) : Whole printNumber root := by
  cases call with
  | sensorData random subId =>
    cases h
    exact sensorRoot_whole true _ subId (ssState_room _).1 (ssBat_room _).1
  | sensorError random subId =>
    cases h
    exact sensorRoot_whole false _ subId (ssState_room _).1 (ssBat_room _).1
  | gatewayData random =>
    cases h
    exact whole_object (requestId_whole
      (membersWhole_cons (by decide) (gatewayStates_whole s) membersWhole_nil))
  | error random subId =>
    cases h
    exact whole_object (requestId_whole
      (membersWhole_cons (by decide) (whole_plain (by decide))
        (membersWhole_cons (by decide) (whole_string (errorMessage_nonzero subId))
          membersWhole_nil)))
  | fbSsProcess random subId =>
    cases h
    exact whole_object (requestId_whole
      (membersWhole_cons (by decide) (whole_plain (by decide))
        (membersWhole_cons (by decide)
          (whole_array (addedDevice_whole (subIdText_nonzero _ _))) membersWhole_nil)))
  | jobRequestedFeedback random =>
    cases h
    exact whole_object (requestId_whole
      (membersWhole_cons (by decide)
        (whole_object (membersWhole_cons (by decide) (whole_bool true) membersWhole_nil))
        membersWhole_nil))
  | announce | sFrame | topics | post | bleNotification => cases h

theorem root_nesting {s : OutgoingState} {call : OutgoingCall} {root : CJson}
    (h : call.root s = some root) : nesting root ≤ CJSON_NESTING_LIMIT := by
  cases call with
  | sensorData | sensorError | gatewayData | jobRequestedFeedback =>
    cases h
    exact (by decide : 2 ≤ CJSON_NESTING_LIMIT)
  | error =>
    cases h
    exact (by decide : 1 ≤ CJSON_NESTING_LIMIT)
  | fbSsProcess =>
    cases h
    exact (by decide : 3 ≤ CJSON_NESTING_LIMIT)
  | announce | sFrame | topics | post | bleNotification => cases h

theorem sprintf_bind {size : Nat} {text : List UInt8} (h : text.length < size)
    (next : List UInt8 → Option (List UInt8)) : (sprintf size text >>= next) = next text := by
  rw [sprintf, if_pos h, Option.bind_eq_bind, Option.bind_some]

theorem subIdText_room (d : SensorData) (subId : UInt8) : (subIdText d subId).length < 20 := by
  rw [subIdText_length]
  decide

theorem errorMessage_room (subId : UInt8) : (errorMessage subId).length < 30 := by
  have hNumber : (decimal subId.toNat).length ≤ 3 :=
    decimal_length_le (by decide) (subId.toNat_lt.trans (by decide))
  have hBefore : (literal "Sensor ").length = 7 := by decide
  have hBehind : (literal " lost connection").length = 16 := by decide
  rw [errorMessage, List.length_append, List.length_append, hBefore, hBehind]
  omega

/-- The builders print their tree into the buffer of the send task. -/
theorem texts_eq {s : OutgoingState} {call : OutgoingCall} {root : CJson}
    (h : call.root s = some root) :
    call.texts printNumber s = [strcpy MQTT_HEAP_SIZE (printUnformatted printNumber root)] := by
  cases call with
  | sensorData random subId | sensorError random subId =>
    cases h
    exact congrArg (fun text => [text]) (sprintf_bind (subIdText_room _ subId) _)
  | gatewayData random | jobRequestedFeedback random =>
    cases h
    rfl
  | error random subId =>
    cases h
    exact congrArg (fun text => [text]) (sprintf_bind (errorMessage_room subId) _)
  | fbSsProcess random subId =>
    cases h
    exact congrArg (fun text => [text]) (sprintf_bind (subIdText_room _ _) _)
  | announce | sFrame | topics | post | bleNotification => cases h

/-- A packet fits into the buffer, and its text says what was meant. -/
theorem packet_read (hPrint : Prints printNumber) {s : OutgoingState} {call : OutgoingCall}
    {root : CJson} (h : call.root s = some root) :
    ∃ text, call.texts printNumber s = [some text] ∧ text.length < MQTT_HEAP_SIZE ∧
      parseWithLength text = some root := by
  have hTexts : call.texts printNumber s = _ := texts_eq h
  obtain ⟨text, hText⟩ := outgoing_fits printNumber s call _
    (hTexts ▸ List.mem_singleton_self _)
  refine ⟨text, by rw [hTexts, hText], ?_⟩
  rw [strcpy, cString_print hPrint, sprintf] at hText
  split at hText
  · rename_i hRoom
    cases hText
    refine ⟨hRoom, ?_⟩
    rw [parseWithLength_print hPrint, root_whole h]
    exact if_pos (root_nesting h)
  · cases hText

/-! ## The messages -/

/-- What the reader of a message finds in it. -/
structure ShowsPacket (name : List UInt8) (random : MessageId) (root : CJson) (m : List UInt8) :
    Prop where
  type : getType m = some .publish
  topic : mqttGetPublishTopic m m.length = some name
  qos : getQos m = QOS_PKG_IMPORTANT
  id : mqttGetId m m.length = random.toNat
  payload : (mqttGetPublishData m m.length).bind parseWithLength = some root

theorem important_valid : QOS_PKG_IMPORTANT < 3 ∧ QOS_PKG_IMPORTANT ≠ 0 := by decide

/-- The call of `esp_mqtt_client_publish` in `mqtt_send_task`. -/
def sentPacket (name text : List UInt8) (random : MessageId) (hNamed : name ≠ [])
    (hShort : name.length < 65536) : Publish where
  topic := name
  data := text
  qos := QOS_PKG_IMPORTANT
  retain := 0
  id := random.toNat
  named := hNamed
  short := hShort
  qosValid := important_valid.1
  retainValid := Nat.two_pos
  idValid := random.lt.trans (Nat.lt_succ_self _)
  unacknowledged h := absurd h important_valid.2

theorem topic_room {before behind : String} {clientId : ConfigText 33} {name : List UInt8}
    (hBefore : literal before ≠ []) (h : topic before clientId behind = some name) :
    name ≠ [] ∧ name.length < 100 := by
  rw [topic, sprintf] at h
  split at h
  · rename_i hRoom
    cases h
    refine ⟨fun hNone => hBefore ?_, hRoom⟩
    exact (List.append_eq_nil_iff.mp (List.append_eq_nil_iff.mp hNone).1).1
  · cases h

theorem destination_room {clientId : ConfigText 33} {call : OutgoingCall} {name : List UInt8}
    (h : call.destination clientId = some name) : name ≠ [] ∧ name.length < 100 := by
  cases call with
  | sensorData | gatewayData | sensorError | fbSsProcess | jobRequestedFeedback =>
    exact topic_room (by decide) h
  | error | announce | sFrame | topics | post | bleNotification => cases h

theorem showsPacket {p : Publish} {random : MessageId} {root : CJson} {dup : Nat}
    {m : List UInt8} (hRead : p.ReadAs dup m m.length)
    (hData : (mqttGetPublishData m m.length).getD [] = p.data) (hQos : p.qos = QOS_PKG_IMPORTANT)
    (hDraws : p.Draws random) (hRoot : parseWithLength p.data = some root) :
    ShowsPacket p.topic random root m where
  type := hRead.type
  topic := hRead.topic
  qos := hRead.qos.trans hQos
  id := hRead.id.trans (hDraws (hQos ▸ by decide))
  payload := by
    cases hPayload : mqttGetPublishData m m.length with
    | none =>
      rw [hPayload] at hData
      rw [← hData] at hRoot
      cases hRoot
    | some data =>
      rw [hPayload] at hData
      rw [Option.bind_some, ← hRoot, ← hData]
      rfl

/-- Behind a run that has left no offset in the buffer the message of a packet is the same in the
outbox, also as a duplicate, and on the wire; its payload is read as what was meant. -/
theorem packet_delivered (hPrint : Prints printNumber) {s : OutgoingState} {call : OutgoingCall}
    {root : CJson} (hRoot : call.root s = some root) {name : List UInt8}
    (hName : call.destination s.clientId = some name) (random : MessageId) {c : MqttConnection}
    (hBuffer : 108 ≤ c.bufferLength) (hFirst : c.message.fragmentedMsgDataOffset ≤ 0)
    {uses : List BufferUse} (hSettled : ∀ use ∈ uses, use.Settled c.bufferLength) :
    ∃ text m, call.texts printNumber s = [some text] ∧
      queuedMessage (mqttMsgPublish random (bufferRun c uses) name text QOS_PKG_IMPORTANT 0).1
        text = m ∧
      ShowsPacket name random root m ∧ ShowsPacket name random root (setDup m) ∧
      ∀ memory returns sent, (clientPublish random memory (some returns) (bufferRun c uses) name
        text QOS_PKG_IMPORTANT 0).1 = some sent → sent.ok = true → sent.bytes = m := by
  have hClear := bufferRun_clear ⟨rfl, hFirst⟩ hSettled
  obtain ⟨text, hTexts, hRoom, hText⟩ := packet_read hPrint hRoot
  obtain ⟨hNamed, hShort⟩ := destination_room hName
  let p := sentPacket name text random hNamed (hShort.trans (by decide))
  have hDraws : p.Draws random := fun _ => rfl
  have hHeaderLength : p.header.length = 2 + name.length + 2 := p.header_length
  have hHeader : p.headerRoom ≤ (bufferRun c uses).bufferLength := by
    rw [Publish.headerRoom, hHeaderLength, MQTT_MAX_FIXED_HEADER_SIZE, hClear.buffer]
    omega
  have hSize : p.body.length < 128 ^ 4 := by
    have hData : text.length < 512 := hRoom
    rw [Publish.body, List.length_append, hHeaderLength]
    change 2 + name.length + 2 + text.length < 128 ^ 4
    omega
  obtain ⟨m, hQueued, ⟨hRead, hData⟩, hAgain, hAgainData⟩ :=
    (queued_roundTrip p hDraws hSize (bufferRun c uses)).2 hHeader
  refine ⟨text, m, hTexts, hQueued, showsPacket hRead hData rfl hDraws hText,
    showsPacket hAgain hAgainData rfl hDraws hText, fun memory returns sent hSent hOk => ?_⟩
  have hOffset := hClear.offset
  have hDelivered := (p.delivers_iff (c := bufferRun c uses) hDraws hSize memory).mpr
    (.inr (.inr (by omega))) returns
  change (clientPublish random memory (some returns) (bufferRun c uses) p.topic p.data p.qos
    p.retain).1 = _ at hSent
  rw [hSent] at hDelivered
  rw [← hQueued]
  exact (hDelivered.2 hOk).trans (Publish.queuedMessage_eq hDraws hSize hHeader).symm

end Packets

def sampleRandom : Uuid := ⟨List.replicate 16 0, List.length_replicate⟩

def freshConnection : MqttConnection := ⟨⟨[], 0, 0⟩, 1024⟩

/-- Behind a ping and the message of an earlier packet, sent again. -/
theorem gatewayData_delivered : ∃ text m,
    (OutgoingCall.gatewayData sampleRandom).texts twoDigits.printNumber pairedState =
        [some text] ∧
      queuedMessage (mqttMsgPublish sampleId (bufferRun freshConnection
        [.control sampleId .pingreq, .resend (sampleLong.bytes 1)])
        (literal "stag/dt/6DVZ8TLF/gateway") text QOS_PKG_IMPORTANT 0).1 text = m ∧
      ShowsPacket (literal "stag/dt/6DVZ8TLF/gateway") sampleId (.object [requestId sampleRandom,
        (literal "states", gatewayStates pairedState)]) m ∧
      ShowsPacket (literal "stag/dt/6DVZ8TLF/gateway") sampleId (.object [requestId sampleRandom,
        (literal "states", gatewayStates pairedState)]) (setDup m) ∧
      ∀ memory returns sent, (clientPublish sampleId memory (some returns)
        (bufferRun freshConnection [.control sampleId .pingreq, .resend (sampleLong.bytes 1)])
        (literal "stag/dt/6DVZ8TLF/gateway") text QOS_PKG_IMPORTANT 0).1 = some sent →
          sent.ok = true → sent.bytes = m := by
  refine packet_delivered twoDigits_prints rfl (by decide) sampleId (by decide) le_rfl
    fun use hUse => ?_
  simp only [List.mem_cons, List.not_mem_nil, or_false] at hUse
  rcases hUse with rfl | rfl
  · trivial
  · trivial

end FcomGateway.OutgoingText
