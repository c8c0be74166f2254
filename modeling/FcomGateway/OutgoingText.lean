import FcomGateway.CJsonPrint
import FcomGateway.CredentialText
import FcomGateway.PlantControl
import FcomGateway.SubId
import FcomGateway.System
import FcomGateway.Uuid

/-! # The texts that the gateway sends

Packets, frames, topics and messages are printed to buffers of fixed sizes by `sprintf` and
`strcpy`, which do not know these sizes; `none` is a write behind the buffer.
-/

namespace FcomGateway.OutgoingText

open CJson HexText

def MQTT_HEAP_SIZE : Nat := 512

/-- `%d` of a number that is not negative. -/
def decimal (n : Nat) : List UInt8 := (Nat.toDigits 10 n).map fun c => UInt8.ofNat c.toNat

def strcpy (size : Nat) (source : List UInt8) : Option (List UInt8) :=
  sprintf size (cString source)

/-- All values of `gw_connect_info_t`. -/
inductive GwConnectInfo
  | ethernet
  | wifi
  | sim3G
  deriving DecidableEq, Repr

/-- The globals that are printed; the arrays hold what fits into them. -/
structure OutgoingState where
  gateway : Gateway
  connectInfo : GwConnectInfo
  fwInfo : ConfigText 20
  clientId : ConfigText 33
  mPairToken : ConfigText 33

structure DetectorSlot where
  slot : Nat
  low : 1 ≤ slot
  high : slot ≤ MAX_DECTECTOR

/-! ## Packets -/

def CMD_GW_RECEIVE_ADD_SUB : List UInt8 := literal "add_sub_devices"

def CMD_GW_REPORT_STATUS : List UInt8 := literal "gateway_status"

def CMD_GW_REPORT_BAT_STATE : List UInt8 := literal "battery_state"

def CMD_GW_REPORT_CONNECT_INFO : List UInt8 := literal "connection_info"

def CMD_GW_REPORT_FIRMWARE_INFO : List UInt8 := literal "firmware_info"

def CMD_NODE_REPORT_SS_STATE : List UInt8 := literal "fire_sensor_state"

def CMD_NODE_REPORT_BAT_STATE : List UInt8 := literal "battery_state"

def CMD_NODE_REPORT_CONNECT_STATE : List UInt8 := literal "node_online"

def CMD_NODE_IP_NODE : List UInt8 := literal "ip_node"

def CMD_NODE_PRODUCT_CODE : List UInt8 := literal "product_code"

def ssState : SensorState → List UInt8
  | .normalSt => literal "normal"
  | .alarmSt => literal "alarm"
  | .errorSt => literal "error"
  | .maxSt => literal "max"

def ssBat : BatState → List UInt8
  | .low => literal "low"
  | .middle => literal "middle"
  | .high => literal "high"

def gwStatus : GwStatus → List UInt8
  | .normal => literal "normal"
  | .addSubDevice => literal "adding_sub_devices"
  | .error => literal "error"

def gwConnectInfo : GwConnectInfo → List UInt8
  | .ethernet => literal "ethernet"
  | .wifi => literal "wifi"
  | .sim3G => literal "3g"

/-- The member that every packet begins with. -/
def requestId (random : Uuid) : List UInt8 × CJson :=
  (literal "request_id", .string (uuidUnparse (uuidGenerate random)))

/-! `device_info` of the packets -/

def sensorStates (state bat : List UInt8) (online : Bool) : CJson :=
  .object [(CMD_NODE_REPORT_SS_STATE, .string state), (CMD_NODE_REPORT_BAT_STATE, .string bat),
    (CMD_NODE_REPORT_CONNECT_STATE, .bool online)]

def gatewayStates (s : OutgoingState) : CJson :=
  .object [(CMD_GW_REPORT_STATUS, .string (gwStatus s.gateway.gatewayData.status)),
    (CMD_GW_REPORT_BAT_STATE, .string (ssBat .high)),
    (CMD_GW_REPORT_CONNECT_INFO, .string (gwConnectInfo s.connectInfo)),
    (CMD_GW_REPORT_FIRMWARE_INFO, .string s.fwInfo.text)]

def addedDevice (text : List UInt8) : CJson :=
  .object [(CMD_NODE_IP_NODE, .string text),
    (CMD_NODE_PRODUCT_CODE, .string (literal "sensor001"))]

section Packets

variable (printNumber : List UInt8 → List UInt8)

def sensorPacket (state bat : List UInt8) (online : Bool) (random : Uuid) (d : SensorData)
    (subId : UInt8) : Option (List UInt8) := do
  let text ← sprintf 20 (subIdText d subId)
  let root := .object [requestId random, (literal "sub_id", .string text),
    (literal "states", sensorStates state bat online)]
  strcpy MQTT_HEAP_SIZE (printUnformatted printNumber root)

def jsonPacketMessageSensorData (random : Uuid) (d : SensorData) (subId : UInt8) :
    Option (List UInt8) :=
  sensorPacket printNumber (ssState (d.dtorSensorState subId.toNat))
    (ssBat (d.dtorBatState subId.toNat)) true random d subId

def jsonPacketMessageSensorError (random : Uuid) (d : SensorData) (subId : UInt8) :
    Option (List UInt8) :=
  sensorPacket printNumber (ssState .normalSt) (ssBat .high) false random d subId

def jsonPacketMessageGatewayData (random : Uuid) (s : OutgoingState) : Option (List UInt8) :=
  let root := .object [requestId random, (literal "states", gatewayStates s)]
  strcpy MQTT_HEAP_SIZE (printUnformatted printNumber root)

def jsonPacketMessageError (random : Uuid) (sensorError : UInt8) : Option (List UInt8) := do
  let message ← sprintf 30
    (literal "Sensor " ++ decimal sensorError.toNat ++ literal " lost connection")
  let root := .object [requestId random, (literal "error_code", .string (literal "E0001")),
    (literal "message", .string message)]
  strcpy MQTT_HEAP_SIZE (printUnformatted printNumber root)

/-- The argument is not used: the address is that of `curDetector`. -/
def jsonPacketMessageFbSsProcess (random : Uuid) (d : SensorData) (_subId : UInt8) :
    Option (List UInt8) := do
  let text ← sprintf 20 (subIdText d (UInt8.ofNat d.curDetector))
  let root := .object [requestId random, (literal "action", .string (literal "add")),
    (literal "devices", .array [addedDevice text])]
  strcpy MQTT_HEAP_SIZE (printUnformatted printNumber root)

def jsonPacketMessageJobRequestedFeedback (random : Uuid) : Option (List UInt8) :=
  let root := .object [requestId random,
    (literal "commands", .object [(CMD_GW_RECEIVE_ADD_SUB, .bool true)])]
  strcpy MQTT_HEAP_SIZE (printUnformatted printNumber root)

end Packets

/-! ## Frames, topics and messages -/

/-- `buf_data_send` -/
def sFrameText (f : SFrame) : Option (List UInt8) :=
  sprintf 25 (literal "\x7bS" ++ decimal f.addH ++ decimal f.addL ++ f.sync.flatMap decimal ++
    literal "\x7d")

def announceText : Option (List UInt8) := sprintf 25 (literal "\x7bT00\x7d")

def topic (before : String) (clientId : ConfigText 33) (behind : String) :
    Option (List UInt8) :=
  sprintf 100 (literal before ++ clientId.text ++ literal behind)

/-- The nine topics of `mqtt_app_start`. -/
def mqttTopics (clientId : ConfigText 33) : List (Option (List UInt8)) :=
  [topic "stag/dt/6DVZ8TLF/" clientId "",
    topic "stag/dt/6DVZ8TLF/" clientId "/error",
    topic "stag/cmd/6DVZ8TLF/" clientId "/accepted",
    topic "stag/cmd/6DVZ8TLF/" clientId "/status",
    topic "stag/gw/6DVZ8TLF/" clientId "/devices",
    topic "stag/gw/6DVZ8TLF/" clientId "/dt",
    topic "stag/gw/6DVZ8TLF/" clientId "/dt/error",
    topic "stag/gw/6DVZ8TLF/" clientId "/cmd/accepted",
    topic "stag/gw/6DVZ8TLF/" clientId "/cmd/status"]

/-- `%02x:%02x:%02x:%02x:%02x:%02x` -/
def macText (mac : Fin 6 → UInt8) : List UInt8 :=
  byteDigits (mac 0) ++ 0x3A :: byteDigits (mac 1) ++ 0x3A :: byteDigits (mac 2) ++
    0x3A :: byteDigits (mac 3) ++ 0x3A :: byteDigits (mac 4) ++ 0x3A :: byteDigits (mac 5)

def wifiGetMac (mac : Fin 6 → UInt8) : Option (List UInt8) := sprintf 19 (macText mac)

/-- The body that `mqtt_get_cer` posts. -/
def postData (s : OutgoingState) (mac : Fin 6 → UInt8) : Option (List UInt8) := do
  let serialNumber ← wifiGetMac mac
  sprintf 201 (literal "\x7b\"product_code\":\"fcomt8001\",\"pair_token\":\"" ++
    s.mPairToken.text ++ literal "\",\"serial_number\":\"" ++ serialNumber ++
    literal "\",\"hash_firmware\":\"" ++ s.fwInfo.text ++ literal "\"\x7d")

/-- What `ble_ota_noti_task` sends; the two texts differ in the last member. -/
def bleResData (status : String) (s : OutgoingState) : Option (List UInt8) :=
  sprintf 101 (literal "\x7b\"id\": \"" ++ s.mPairToken.text ++
    literal "\", \"action\": \"ota\", \"status\": \"" ++ literal status ++ literal "\" \x7d")

def bleNotifications (isStartOta : OtaState) (s : OutgoingState) : List (Option (List UInt8)) :=
  match isStartOta with
  | .otaPending => []
  | .otaStart => [bleResData "start" s]
  | .otaDone => [bleResData "done" s]

/-! ## The calls -/

inductive OutgoingCall
  | sensorData (random : Uuid) (subId : UInt8)
  | gatewayData (random : Uuid)
  | error (random : Uuid) (sensorError : UInt8)
  | sensorError (random : Uuid) (subId : UInt8)
  | fbSsProcess (random : Uuid) (subId : UInt8)
  | jobRequestedFeedback (random : Uuid)
  | announce
  | sFrame (c : DetectorSlot)
  | topics
  | post (mac : Fin 6 → UInt8)
  | bleNotification (isStartOta : OtaState)

/-- The texts that a call leaves in its destinations. -/
def OutgoingCall.texts (printNumber : List UInt8 → List UInt8) (s : OutgoingState) :
    OutgoingCall → List (Option (List UInt8))
  | sensorData random subId =>
    [jsonPacketMessageSensorData printNumber random s.gateway.sensorData subId]
  | gatewayData random => [jsonPacketMessageGatewayData printNumber random s]
  | error random subId => [jsonPacketMessageError printNumber random subId]
  | sensorError random subId =>
    [jsonPacketMessageSensorError printNumber random s.gateway.sensorData subId]
  | fbSsProcess random subId =>
    [jsonPacketMessageFbSsProcess printNumber random s.gateway.sensorData subId]
  | jobRequestedFeedback random => [jsonPacketMessageJobRequestedFeedback printNumber random]
  | announce => [announceText]
  | sFrame c => [sFrameText (FcomGateway.sFrame s.gateway.sensorData c.slot)]
  | topics => mqttTopics s.clientId
  | post mac => [postData s mac]
  | bleNotification isStartOta => bleNotifications isStartOta s

/-! ## Lengths -/

def Fits (written : Option (List UInt8)) : Prop := ∃ text, written = some text

theorem sprintf_fits {size : Nat} {text : List UInt8} (h : text.length < size) :
    Fits (sprintf size text) :=
  ⟨text, if_pos h⟩

/-- The second buffer is filled only if the first one was not left. -/
theorem sprintf_bind_fits {size : Nat} {text : List UInt8} (h : text.length < size)
    {next : List UInt8 → Option (List UInt8)} (hNext : Fits (next text)) :
    Fits (sprintf size text >>= next) := by
  rwa [sprintf, if_pos h, Option.bind_eq_bind, Option.bind_some]

theorem strcpy_fits {size n : Nat} {printNumber : List UInt8 → List UInt8} {root : CJson}
    (h : Within printNumber n root) (hSize : n < size) :
    Fits (strcpy size (printUnformatted printNumber root)) :=
  sprintf_fits (((cString_length_le _).trans h).trans_lt hSize)

theorem subIdText_length (d : SensorData) (subId : UInt8) : (subIdText d subId).length = 15 := rfl

theorem decimal_length_le {n k : Nat} (hDigits : 0 < k) (h : n < 10 ^ k) :
    (decimal n).length ≤ k := by
  rw [decimal, List.length_map]
  exact (Nat.length_toDigits_le_iff (by decide) hDigits).mpr h

theorem ssState_room (state : SensorState) :
    (ssState state).all isPlain = true ∧ (ssState state).length ≤ 6 := by
  cases state <;> decide

theorem ssBat_room (bat : BatState) :
    (ssBat bat).all isPlain = true ∧ (ssBat bat).length ≤ 6 := by
  cases bat <;> decide

theorem gwStatus_room (status : GwStatus) :
    (gwStatus status).all isPlain = true ∧ (gwStatus status).length ≤ 18 := by
  cases status <;> decide

theorem gwConnectInfo_room (connectInfo : GwConnectInfo) :
    (gwConnectInfo connectInfo).all isPlain = true ∧ (gwConnectInfo connectInfo).length ≤ 8 := by
  cases connectInfo <;> decide

section Packets

variable {printNumber : List UInt8 → List UInt8} {random : Uuid}

theorem requestId_room {n : Nat} {rest : List (List UInt8 × CJson)}
    (hRest : MembersWithin printNumber n rest) :
    MembersWithin printNumber ((literal "request_id").length + (6 * 32 + 2) + n + 4)
      (requestId random :: rest) :=
  membersWithin_cons (by decide) (within_string (uuidUnparse_length _).le) hRest

/-- A packet with the identifier of the request and the members behind it. -/
theorem packet_fits {n : Nat} {rest : List (List UInt8 × CJson)}
    (hRest : MembersWithin printNumber n rest) (hSize : n < 300) :
    Fits (strcpy MQTT_HEAP_SIZE
      (printUnformatted printNumber (.object (requestId random :: rest)))) := by
  refine strcpy_fits (within_object (requestId_room hRest)) ?_
  have hName : (literal "request_id").length = 10 := by decide
  rw [hName, MQTT_HEAP_SIZE]
  omega

theorem sensorStates_room {state bat : List UInt8} (online : Bool)
    (hState : state.all isPlain = true ∧ state.length ≤ 6)
    (hBat : bat.all isPlain = true ∧ bat.length ≤ 6) :
    Within printNumber 80 (sensorStates state bat online) :=
  Within.mono
    (within_object
      (membersWithin_cons (by decide) (within_plain hState.1 hState.2)
        (membersWithin_cons (by decide) (within_plain hBat.1 hBat.2)
          (membersWithin_cons (by decide) (within_bool online) membersWithin_nil))))
    (by decide)

theorem sensorPacket_fits {state bat : List UInt8} (online : Bool) (d : SensorData)
    (subId : UInt8) (hState : state.all isPlain = true ∧ state.length ≤ 6)
    (hBat : bat.all isPlain = true ∧ bat.length ≤ 6) :
    Fits (sensorPacket printNumber state bat online random d subId) := by
  have hAddress := subIdText_length d subId
  rw [sensorPacket]
  refine sprintf_bind_fits (by rw [hAddress]; decide) ?_
  exact packet_fits
    (membersWithin_cons (by decide) (within_string hAddress.le)
      (membersWithin_cons (by decide) (sensorStates_room online hState hBat)
        membersWithin_nil))
    (by decide)

theorem gatewayStates_room (s : OutgoingState) : Within printNumber 240 (gatewayStates s) := by
  have hStatus := gwStatus_room s.gateway.gatewayData.status
  have hBat := ssBat_room .high
  have hConnect := gwConnectInfo_room s.connectInfo
  have hFirmware : s.fwInfo.text.length ≤ 19 := Nat.le_of_lt_succ s.fwInfo.fits
  exact Within.mono
    (within_object
      (membersWithin_cons (by decide) (within_plain hStatus.1 hStatus.2)
        (membersWithin_cons (by decide) (within_plain hBat.1 hBat.2)
          (membersWithin_cons (by decide) (within_plain hConnect.1 hConnect.2)
            (membersWithin_cons (by decide) (within_string hFirmware)
              membersWithin_nil)))))
    (by decide)

theorem gatewayData_fits (s : OutgoingState) :
    Fits (jsonPacketMessageGatewayData printNumber random s) :=
  packet_fits (membersWithin_cons (by decide) (gatewayStates_room s) membersWithin_nil)
    (by decide)

theorem error_fits (sensorError : UInt8) :
    Fits (jsonPacketMessageError printNumber random sensorError) := by
  have hNumber : (decimal sensorError.toNat).length ≤ 3 :=
    decimal_length_le (by decide) (sensorError.toNat_lt.trans (by decide))
  have hBefore : (literal "Sensor ").length = 7 := by decide
  have hBehind : (literal " lost connection").length = 16 := by decide
  have hMessage : (literal "Sensor " ++ decimal sensorError.toNat ++
      literal " lost connection").length ≤ 26 := by
    rw [List.length_append, List.length_append, hBefore, hBehind]
    omega
  rw [jsonPacketMessageError]
  refine sprintf_bind_fits (hMessage.trans_lt (by decide)) ?_
  exact packet_fits
    (membersWithin_cons (by decide) (within_string le_rfl)
      (membersWithin_cons (by decide) (within_string hMessage) membersWithin_nil))
    (by decide)

theorem addedDevice_room {text : List UInt8} (h : text.length ≤ 15) :
    Within printNumber 140 (addedDevice text) :=
  Within.mono
    (within_object
      (membersWithin_cons (by decide) (within_string h)
        (membersWithin_cons (by decide) (within_plain (by decide) le_rfl)
          membersWithin_nil)))
    (by decide)

theorem fbSsProcess_fits (d : SensorData) (subId : UInt8) :
    Fits (jsonPacketMessageFbSsProcess printNumber random d subId) := by
  have hAddress := subIdText_length d (UInt8.ofNat d.curDetector)
  rw [jsonPacketMessageFbSsProcess]
  refine sprintf_bind_fits (by rw [hAddress]; decide) ?_
  exact packet_fits
    (membersWithin_cons (by decide) (within_string le_rfl)
      (membersWithin_cons (by decide)
        (within_array (elementsWithin_cons (addedDevice_room hAddress.le) elementsWithin_nil))
        membersWithin_nil))
    (by decide)

theorem jobRequestedFeedback_fits :
    Fits (jsonPacketMessageJobRequestedFeedback printNumber random) :=
  packet_fits
    (membersWithin_cons (by decide)
      (within_object
        (membersWithin_cons (by decide) (within_bool true) membersWithin_nil))
      membersWithin_nil)
    (by decide)

end Packets

/-! ## Frames -/

theorem digits_length_le {numbers : List Nat} (h : ∀ n ∈ numbers, n < 10) :
    (numbers.flatMap decimal).length ≤ numbers.length := by
  induction numbers with
  | nil => exact le_rfl
  | cons n rest ih =>
    rw [List.forall_mem_cons] at h
    have hDigit : (decimal n).length ≤ 1 := decimal_length_le (by decide) h.1
    have hRest := ih h.2
    rw [List.flatMap_cons, List.length_append, List.length_cons]
    omega

theorem digits3_lt (b : UInt8) : ∀ n ∈ digits3 b, n < 10 := by
  have hByte := b.toNat_lt
  rw [digits3, List.forall_mem_cons, List.forall_mem_cons, List.forall_mem_singleton]
  omega

theorem sFrameText_fits {f : SFrame} (hHigh : f.addH < 10) (hLow : f.addL < 10)
    (hSync : ∀ n ∈ f.sync, n < 10) (hCount : f.sync.length = 9) : Fits (sFrameText f) := by
  have hAddH : (decimal f.addH).length ≤ 1 := decimal_length_le (by decide) hHigh
  have hAddL : (decimal f.addL).length ≤ 1 := decimal_length_le (by decide) hLow
  have hCode := digits_length_le hSync
  have hBefore : (literal "\x7bS").length = 2 := by decide
  have hBehind : (literal "\x7d").length = 1 := by decide
  refine sprintf_fits ?_
  rw [List.length_append, List.length_append, List.length_append, List.length_append, hBefore,
    hBehind]
  omega

theorem sFrame_fits (d : SensorData) {slot : Nat} (h : slot ≤ MAX_DECTECTOR) :
    Fits (sFrameText (sFrame d slot)) := by
  rw [MAX_DECTECTOR] at h
  have hHigh : slot / 10 < 10 := by omega
  have hLow : slot % 10 < 10 := Nat.mod_lt _ (by decide)
  refine sFrameText_fits hHigh hLow ?_ rfl
  rw [sFrame, List.forall_mem_append, List.forall_mem_append]
  exact ⟨⟨digits3_lt _, digits3_lt _⟩, digits3_lt _⟩

theorem announce_fits : Fits announceText := sprintf_fits (by decide)

/-- Whatever a buffer holds, the frames that the loop over it sends fit. -/
theorem frames_fit {list : List Frame} {g : Gateway} {f : SFrame}
    (h : .sFrame f ∈ (list.foldl applyFrame g).log) :
    .sFrame f ∈ g.log ∨ Fits (sFrameText f) := by
  induction list generalizing g with
  | nil => exact .inl h
  | cons frame rest ih =>
    rw [List.foldl_cons] at h
    rcases ih h with hLog | hFits
    · rw [applyFrame_log, List.mem_append] at hLog
      refine hLog.imp_right fun hNew => ?_
      cases frame with
      | request =>
        obtain ⟨c, hFree, hFrame⟩ := List.mem_map.mp hNew
        cases hFrame
        exact sFrame_fits _ (freeSlot_eq_some.mp (Option.mem_toList.mp hFree)).1.2
      | report letter add => cases List.mem_singleton.mp hNew
    · exact .inr hFits

theorem scanBuffer_frames_fit {dtmp : List UInt8} {g : Gateway} {f : SFrame}
    (h : .sFrame f ∈ (scanBuffer dtmp g).log) : .sFrame f ∈ g.log ∨ Fits (sFrameText f) := by
  rw [scanBuffer_eq] at h
  exact frames_fit h

/-! ## Topics and messages -/

theorem topic_fits {before behind : String} (clientId : ConfigText 33)
    (h : (literal before).length + (literal behind).length ≤ 60) :
    Fits (topic before clientId behind) := by
  have hClient := clientId.fits
  refine sprintf_fits ?_
  rw [List.length_append, List.length_append]
  omega

theorem mqttTopics_fit (clientId : ConfigText 33) :
    ∀ written ∈ mqttTopics clientId, Fits written := by
  simp only [mqttTopics, List.forall_mem_cons]
  refine ⟨?_, ?_, ?_, ?_, ?_, ?_, ?_, ?_, ?_, List.forall_mem_nil _⟩ <;>
    exact topic_fits clientId (by decide)

theorem macText_length (mac : Fin 6 → UInt8) : (macText mac).length = 17 := rfl

theorem postData_fits (s : OutgoingState) (mac : Fin 6 → UInt8) : Fits (postData s mac) := by
  have hToken := s.mPairToken.fits
  have hFirmware := s.fwInfo.fits
  have hBefore :
      (literal "\x7b\"product_code\":\"fcomt8001\",\"pair_token\":\"").length = 42 := by decide
  have hSerial : (literal "\",\"serial_number\":\"").length = 19 := by decide
  have hHash : (literal "\",\"hash_firmware\":\"").length = 19 := by decide
  have hBehind : (literal "\"\x7d").length = 2 := by decide
  rw [postData, wifiGetMac]
  refine sprintf_bind_fits (by rw [macText_length]; decide) (sprintf_fits ?_)
  rw [List.length_append, List.length_append, List.length_append, List.length_append,
    List.length_append, List.length_append, hBefore, hSerial, hHash, hBehind, macText_length]
  omega

theorem bleResData_fits {status : String} (h : (literal status).length ≤ 5) (s : OutgoingState) :
    Fits (bleResData status s) := by
  have hToken := s.mPairToken.fits
  have hBefore : (literal "\x7b\"id\": \"").length = 8 := by decide
  have hMiddle : (literal "\", \"action\": \"ota\", \"status\": \"").length = 31 := by decide
  have hBehind : (literal "\" \x7d").length = 3 := by decide
  refine sprintf_fits ?_
  rw [List.length_append, List.length_append, List.length_append, List.length_append, hBefore,
    hMiddle, hBehind]
  omega

theorem bleNotifications_fit (isStartOta : OtaState) (s : OutgoingState) :
    ∀ written ∈ bleNotifications isStartOta s, Fits written := by
  cases isStartOta with
  | otaPending => exact List.forall_mem_nil _
  | otaStart => exact List.forall_mem_singleton.mpr (bleResData_fits (by decide) s)
  | otaDone => exact List.forall_mem_singleton.mpr (bleResData_fits (by decide) s)

/-- In every state, each call of each builder stays inside its destination. -/
theorem outgoing_fits (printNumber : List UInt8 → List UInt8) (s : OutgoingState)
    (call : OutgoingCall) : ∀ written ∈ call.texts printNumber s, Fits written := by
  cases call with
  | topics => exact mqttTopics_fit s.clientId
  | sensorData random subId =>
    exact List.forall_mem_singleton.mpr
      (sensorPacket_fits true _ subId (ssState_room _) (ssBat_room _))
  | sensorError random subId =>
    exact List.forall_mem_singleton.mpr
      (sensorPacket_fits false _ subId (ssState_room _) (ssBat_room _))
  | gatewayData random => exact List.forall_mem_singleton.mpr (gatewayData_fits s)
  | error random subId => exact List.forall_mem_singleton.mpr (error_fits subId)
  | fbSsProcess random subId => exact List.forall_mem_singleton.mpr (fbSsProcess_fits _ subId)
  | jobRequestedFeedback random =>
    exact List.forall_mem_singleton.mpr jobRequestedFeedback_fits
  | announce => exact List.forall_mem_singleton.mpr announce_fits
  | sFrame c => exact List.forall_mem_singleton.mpr (sFrame_fits _ c.high)
  | post mac => exact List.forall_mem_singleton.mpr (postData_fits s mac)
  | bleNotification isStartOta => exact bleNotifications_fit isStartOta s

/-- A gateway with the longest token. -/
def pairedState : OutgoingState where
  gateway := boot none false fun _ => 0
  connectInfo := .wifi
  fwInfo := ⟨literal "a2f62970fc748f26", by decide, plain_nonzero (by decide)⟩
  clientId := ⟨literal "gateway", by decide, plain_nonzero (by decide)⟩
  mPairToken :=
    ⟨literal "E5ORCC23A5B7VI8SXF2EAQZ98J2FUHW1", by decide, plain_nonzero (by decide)⟩

theorem paired_post_fits : Fits (postData pairedState fun _ => 0xFF) :=
  outgoing_fits id pairedState (.post fun _ => 0xFF) _ (List.mem_singleton_self _)

end FcomGateway.OutgoingText
