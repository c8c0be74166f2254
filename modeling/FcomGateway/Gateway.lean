import FcomGateway.Interface
import FcomGateway.Heartbeat

/-! # The state of the gateway

The globals that the RF, HMI, MQTT and heartbeat tasks share, the relay and 24 V outputs, the
queue `data_process` and the file `sensor_data.txt`. `log` is not a variable of the program: it
lists what the gateway has done, oldest first, so that laws can speak of its past.
-/

namespace FcomGateway

inductive Report
  | F
  | L
  | E
  | T
  deriving DecidableEq, Repr

/-- The eleven numbers printed by `"{S%d%d%d%d%d%d%d%d%d%d%d}"`. -/
structure SFrame where
  addH : Nat
  addL : Nat
  sync : List Nat
  deriving DecidableEq, Repr

def SFrame.slot (f : SFrame) : Nat := f.addH * 10 + f.addL

/-- The packets that `mqtt_send_task` publishes, with what they are built from. -/
inductive Packet
  | sensorData (subId : Nat) (state : SensorState) (bat : BatState)
  | gatewayData (status : GwStatus)
  | jobRequestedFeedback
  | fbSsProcess (ipNode : Nat)
  | sensorError (subId : Nat)
  deriving DecidableEq, Repr

inductive Observation
  | sFrame (frame : SFrame)
  | wiredSlot (slot : Nat)
  | confirmed (slot reporter : Nat)
  | erased (slot : Nat)
  | report (letter : Report) (add : Nat)
  | wiredReport (letter : Report) (add : Nat)
  | published (packet : Packet)
  deriving DecidableEq, Repr

structure Gateway where
  sensorData : SensorData
  gatewayData : GatewayData
  relay : Bool
  out24V : Bool
  ssStateMachine : MasterRfEvent
  rfConfigMode : Bool
  switchListenMode : Nat
  isRegisterSensor : Bool
  isSensorFeedback : Bool
  isStartAddDevice : Bool
  prevTimeMessageNormal : Int
  prevTimeMessageAlarm : Int
  isMqttFirstBoot : Bool
  dataProcess : List DataEvent
  heartbeat : List Dtor
  sensorDataFile : Option SensorData
  log : List Observation

def Gateway.record (g : Gateway) (event : Observation) : Gateway :=
  { g with log := g.log ++ [event] }

/-- `xQueueCreate(10, sizeof(uint32_t))` -/
def DATA_PROCESS_LENGTH : Nat := 10

/-- A send to a queue of that length; it fails, and the event is lost, when all entries are in
use. -/
def enqueue (event : DataEvent) (queue : List DataEvent) : List DataEvent :=
  if queue.length < DATA_PROCESS_LENGTH then queue ++ [event] else queue

def xQueueSend (event : DataEvent) (g : Gateway) : Gateway :=
  { g with dataProcess := enqueue event g.dataProcess }

theorem enqueue_eq (event : DataEvent) (queue : List DataEvent) :
    ∃ more, enqueue event queue = queue ++ more := by
  unfold enqueue
  split
  · exact ⟨[event], rfl⟩
  · exact ⟨[], (List.append_nil _).symm⟩

theorem mem_enqueue (event : DataEvent) {other : DataEvent} {queue : List DataEvent}
    (h : other ∈ queue) : other ∈ enqueue event queue := by
  obtain ⟨more, hMore⟩ := enqueue_eq event queue
  rw [hMore]
  exact List.mem_append_left _ h

theorem mem_enqueue_self (event : DataEvent) {queue : List DataEvent}
    (hRoom : queue.length < DATA_PROCESS_LENGTH) : event ∈ enqueue event queue := by
  rw [enqueue, if_pos hRoom]
  exact List.mem_append_right _ List.mem_cons_self

theorem count_enqueue_of_ne (event other : DataEvent) (h : event ≠ other)
    (queue : List DataEvent) : (enqueue event queue).count other = queue.count other := by
  unfold enqueue
  split
  · rw [List.count_append, List.count_singleton, if_neg (by simpa using h), Nat.add_zero]
  · rfl

theorem count_enqueue_le (event : DataEvent) (queue : List DataEvent) :
    (enqueue event queue).count event ≤ queue.count event + 1 := by
  unfold enqueue
  split
  · rw [List.count_append, List.count_singleton, if_pos (beq_self_eq_true event)]
  · exact Nat.le_succ _

/-! ## Outputs -/

def relayInit (g : Gateway) : Gateway := { g with relay := false, out24V := false }

def updateRelayAlarmState (devAlert : Nat) (g : Gateway) : Gateway :=
  if g.sensorData.dtorSensorState devAlert = .alarmSt then
    { g with relay := true, out24V := true }
  else { g with relay := false, out24V := false }

def recomputeAlarmStatus (g : Gateway) : Gateway :=
  { g with gatewayData := { g.gatewayData with alarmStatus := anyAlarm g.sensorData } }

def setAlarmStatus (g : Gateway) : Gateway :=
  { g with gatewayData := { g.gatewayData with alarmStatus := true } }

/-- `get_head` followed by `add_state` on that head. -/
def addHeartbeat (id : Nat) (now : Int) (g : Gateway) : Gateway :=
  { g with heartbeat := Heartbeat.addState id now g.heartbeat }

/-! ## The saved table -/

def flashSaveSensorData (g : Gateway) : Gateway :=
  { g with sensorDataFile := some g.sensorData }

/-- The entries of a removed detector; `curDetector` moves to the lowest one that is left. -/
def SensorData.erase (d : SensorData) (idx : Nat) : SensorData :=
  let d := { d with
    inputChannel := if d.inputChannel = idx then 0 else d.inputChannel
    deviceActivated := Function.update d.deviceActivated idx 0
    dtorSensorState := Function.update d.dtorSensorState idx .normalSt
    dtorBatState := Function.update d.dtorBatState idx .low }
  { d with curDetector := findCurDetector d }

def flashEraseSensorData (idx : Int) (g : Gateway) : Gateway :=
  match (List.range' 1 g.sensorData.maxDetector).find? (fun i : Nat => (i : Int) = idx) with
  | some i =>
    (flashSaveSensorData { g with sensorData := g.sensorData.erase i }).record (.erased i)
  | none => g

def Removable (idx : Int) (g : Gateway) : Prop := 1 ≤ idx ∧ idx ≤ g.sensorData.maxDetector

instance (idx : Int) (g : Gateway) : Decidable (Removable idx g) :=
  inferInstanceAs (Decidable (_ ∧ _))

theorem flashEraseSensorData_pos {idx : Int} {g : Gateway} (h : Removable idx g) :
    flashEraseSensorData idx g =
      (flashSaveSensorData { g with sensorData := g.sensorData.erase idx.toNat }).record
        (.erased idx.toNat) := by
  have hFind : (List.range' 1 g.sensorData.maxDetector).find?
      (fun i : Nat => (i : Int) = idx) = some idx.toNat := by
    rw [List.find?_range'_eq_some]
    obtain ⟨hLow, hHigh⟩ := h
    refine ⟨by simp; omega, List.mem_range'_1.mpr ⟨by omega, by omega⟩, ?_⟩
    intro j _ hj
    simp only [Bool.not_eq_true', decide_eq_false_iff_not]
    omega
  rw [flashEraseSensorData, hFind]

theorem flashEraseSensorData_neg {idx : Int} {g : Gateway} (h : ¬ Removable idx g) :
    flashEraseSensorData idx g = g := by
  have hFind : (List.range' 1 g.sensorData.maxDetector).find?
      (fun i : Nat => (i : Int) = idx) = none := by
    rw [List.find?_eq_none]
    intro i hi
    have hRange := List.mem_range'_1.mp hi
    simp only [decide_eq_true_eq]
    rintro rfl
    exact h ⟨by omega, by omega⟩
  rw [flashEraseSensorData, hFind]

/-! ## Frame lemmas -/

@[simp] theorem record_sensorData (g : Gateway) (e : Observation) :
    (g.record e).sensorData = g.sensorData := rfl

@[simp] theorem record_gatewayData (g : Gateway) (e : Observation) :
    (g.record e).gatewayData = g.gatewayData := rfl

@[simp] theorem record_relay (g : Gateway) (e : Observation) : (g.record e).relay = g.relay := rfl

@[simp] theorem record_out24V (g : Gateway) (e : Observation) :
    (g.record e).out24V = g.out24V := rfl

@[simp] theorem record_isRegisterSensor (g : Gateway) (e : Observation) :
    (g.record e).isRegisterSensor = g.isRegisterSensor := rfl

@[simp] theorem record_isSensorFeedback (g : Gateway) (e : Observation) :
    (g.record e).isSensorFeedback = g.isSensorFeedback := rfl

@[simp] theorem record_dataProcess (g : Gateway) (e : Observation) :
    (g.record e).dataProcess = g.dataProcess := rfl

@[simp] theorem record_log (g : Gateway) (e : Observation) : (g.record e).log = g.log ++ [e] := rfl

section Queue

variable (event : DataEvent) (g : Gateway)

@[simp] theorem xQueueSend_sensorData : (xQueueSend event g).sensorData = g.sensorData := rfl

@[simp] theorem xQueueSend_gatewayData : (xQueueSend event g).gatewayData = g.gatewayData := rfl

@[simp] theorem xQueueSend_relay : (xQueueSend event g).relay = g.relay := rfl

@[simp] theorem xQueueSend_out24V : (xQueueSend event g).out24V = g.out24V := rfl

@[simp] theorem xQueueSend_isRegisterSensor :
    (xQueueSend event g).isRegisterSensor = g.isRegisterSensor := rfl

@[simp] theorem xQueueSend_isSensorFeedback :
    (xQueueSend event g).isSensorFeedback = g.isSensorFeedback := rfl

@[simp] theorem xQueueSend_sensorDataFile :
    (xQueueSend event g).sensorDataFile = g.sensorDataFile := rfl

@[simp] theorem xQueueSend_log : (xQueueSend event g).log = g.log := rfl

@[simp] theorem xQueueSend_dataProcess :
    (xQueueSend event g).dataProcess = enqueue event g.dataProcess := rfl

end Queue

section Relay

variable (devAlert : Nat) (g : Gateway)

theorem updateRelayAlarmState_eq : updateRelayAlarmState devAlert g =
    { g with
      relay := decide (g.sensorData.dtorSensorState devAlert = .alarmSt)
      out24V := decide (g.sensorData.dtorSensorState devAlert = .alarmSt) } := by
  unfold updateRelayAlarmState
  split
  · rename_i hAlarm
    rw [decide_eq_true hAlarm]
  · rename_i hQuiet
    rw [decide_eq_false hQuiet]

@[simp] theorem updateRelayAlarmState_sensorData :
    (updateRelayAlarmState devAlert g).sensorData = g.sensorData := by
  rw [updateRelayAlarmState_eq]

@[simp] theorem updateRelayAlarmState_gatewayData :
    (updateRelayAlarmState devAlert g).gatewayData = g.gatewayData := by
  rw [updateRelayAlarmState_eq]

@[simp] theorem updateRelayAlarmState_isRegisterSensor :
    (updateRelayAlarmState devAlert g).isRegisterSensor = g.isRegisterSensor := by
  rw [updateRelayAlarmState_eq]

@[simp] theorem updateRelayAlarmState_dataProcess :
    (updateRelayAlarmState devAlert g).dataProcess = g.dataProcess := by
  rw [updateRelayAlarmState_eq]

@[simp] theorem updateRelayAlarmState_isSensorFeedback :
    (updateRelayAlarmState devAlert g).isSensorFeedback = g.isSensorFeedback := by
  rw [updateRelayAlarmState_eq]

@[simp] theorem updateRelayAlarmState_sensorDataFile :
    (updateRelayAlarmState devAlert g).sensorDataFile = g.sensorDataFile := by
  rw [updateRelayAlarmState_eq]

@[simp] theorem updateRelayAlarmState_log :
    (updateRelayAlarmState devAlert g).log = g.log := by
  rw [updateRelayAlarmState_eq]

end Relay

end FcomGateway
