import FcomGateway.Library.EventTrace
import FcomGateway.Handler
import FcomGateway.WiredInput
import FcomGateway.SendTask

/-! # The gateway as one event-driven system

Each task contributes its passes, handled one at a time: the RF task, the HMI task, the commands
of `json_parser_gw_job`, the MQTT events, the send task and the heartbeat checks.
-/

namespace FcomGateway

/-- What a pass of the RF task finds: whether 500 ticks went by since the last `{T00}`, and the
bytes of a `UART_DATA` event together with the time of the following `add_state`. -/
structure RfInput where
  elapsed : Bool
  uart : Option (Int × List UInt8)
  deriving DecidableEq, Repr

def rfHandleExtTask (input : RfInput) (g : Gateway) : Gateway :=
  match g.ssStateMachine with
  | .initCmd => { g with ssStateMachine := .findingSub }
  | .findingSub =>
    if input.elapsed then
      { g with
        switchListenMode := g.switchListenMode + 1
        ssStateMachine := if 3 ≤ g.switchListenMode + 1 then .waitAddSub else .initCmd }
    else g
  | .waitAddSub =>
    if g.rfConfigMode then
      { g with
        gatewayData := { g.gatewayData with status := .addSubDevice }
        ssStateMachine := .configAddMode }
    else { g with ssStateMachine := .configListenMode }
  | .configAddMode =>
    { xQueueSend .gwFeedbackFlag g with
      ssStateMachine := if g.rfConfigMode then .registerSub else .configListenMode }
  | .configListenMode => { g with ssStateMachine := .listenSubEvent }
  | .registerSub | .listenSubEvent =>
    match input.uart with
    | some (now, dtmp) => sensorDataHandler now dtmp g
    | none => g
  | .finishedAddSub => g

def received (input : RfInput) (g : Gateway) : List UInt8 :=
  match g.ssStateMachine, input.uart with
  | .registerSub, some (_, dtmp) => dtmp
  | .listenSubEvent, some (_, dtmp) => dtmp
  | _, _ => []

/-- A pass handles a buffer, posts the status on leaving `CONFIG_ADD_MODE`, or moves the state
machine and no more. -/
theorem rfHandleExtTask_cases (input : RfInput) (g : Gateway) :
    (∃ now, rfHandleExtTask input g = sensorDataHandler now (received input g) g) ∨
    (received input g = [] ∧ ((∃ mode, rfHandleExtTask input g =
        { xQueueSend .gwFeedbackFlag g with ssStateMachine := mode }) ∨
      ∃ mode count status, rfHandleExtTask input g =
        { g with
          ssStateMachine := mode
          switchListenMode := count
          gatewayData := { g.gatewayData with status := status } })) := by
  unfold rfHandleExtTask received
  have same : ∃ mode count status, g = { g with
      ssStateMachine := mode
      switchListenMode := count
      gatewayData := { g.gatewayData with status := status } } := ⟨_, _, _, rfl⟩
  cases g.ssStateMachine with
  | initCmd => exact Or.inr ⟨rfl, Or.inr ⟨_, _, _, rfl⟩⟩
  | findingSub =>
    refine Or.inr ⟨rfl, Or.inr ?_⟩
    dsimp only
    split
    · exact ⟨_, _, _, rfl⟩
    · exact same
  | waitAddSub =>
    refine Or.inr ⟨rfl, Or.inr ?_⟩
    dsimp only
    split
    · exact ⟨_, _, _, rfl⟩
    · exact ⟨_, _, _, rfl⟩
  | configAddMode => exact Or.inr ⟨rfl, Or.inl ⟨_, rfl⟩⟩
  | configListenMode => exact Or.inr ⟨rfl, Or.inr ⟨_, _, _, rfl⟩⟩
  | finishedAddSub => exact Or.inr ⟨rfl, Or.inr same⟩
  | registerSub | listenSubEvent =>
    cases input.uart with
    | none => exact Or.inr ⟨rfl, Or.inr same⟩
    | some read => exact Or.inl ⟨read.1, rfl⟩

/-! ## The commands of `json_parser_gw_job` -/

def addSubDevices (code : Fin 3 → UInt8) (g : Gateway) : Gateway :=
  let g := { g with sensorData := { g.sensorData with
    syncCode := fun i => if h : i < 3 then code ⟨i, h⟩ else g.sensorData.syncCode i } }
  { xQueueSend .jobRequestedFeedbackFlag g with
    rfConfigMode := true
    ssStateMachine := .waitAddSub }

def stopAddSubDevices (g : Gateway) : Gateway :=
  xQueueSend .gwFeedbackFlag { g with
    gatewayData := { g.gatewayData with status := .normal }
    rfConfigMode := false
    ssStateMachine := .configListenMode }

def removeSubDevices (node : Int) (g : Gateway) : Gateway := flashEraseSensorData node g

theorem removeSubDevices_cases (node : Int) (g : Gateway) :
    Removable node g ∧ removeSubDevices node g =
      (flashSaveSensorData { g with sensorData := g.sensorData.erase node.toNat }).record
        (.erased node.toNat) ∨
    ¬ Removable node g ∧ removeSubDevices node g = g := by
  by_cases hRemove : Removable node g
  · exact .inl ⟨hRemove, flashEraseSensorData_pos hRemove⟩
  · exact .inr ⟨hRemove, flashEraseSensorData_neg hRemove⟩

/-- The part of `update_fw` that concerns the queue. -/
def updateFw (g : Gateway) : Gateway := xQueueSend .jobRequestedOta g

/-! ## Heartbeats -/

/-- The check of one node by `Heartbeat_Task`, if a node of that id is in the list. -/
def checkHeartbeat (now : Int) (id : Nat) (g : Gateway) : Gateway :=
  match g.heartbeat.find? fun node => node.id = id with
  | some checker =>
    if now - checker.timestamp ≥ HEART_BEAT_TIME then
      let g := { g with sensorData := { g.sensorData with curDetector := checker.id } }
      let g := xQueueSend .ssErrorFlag g
      { g with heartbeat := Heartbeat.popState checker.id g.heartbeat }
    else g
  | none => g

def updateNetworkType (g : Gateway) : Gateway := xQueueSend .gwFeedbackFlag g

/-! ## Events and runs -/

inductive Event
  | rf (input : RfInput)
  | hmi (reads : PollReads)
  | addSub (code : Fin 3 → UInt8)
  | stopAddSub
  | removeSub (node : Int)
  | updateFw
  | mqttConnected
  | mqttDisconnected
  | mqttSend
  | heartbeat (now : Int) (id : Nat)
  | networkType

def step (g : Gateway) : Event → Gateway
  | .rf input => rfHandleExtTask input g
  | .hmi reads => hmiProcess reads g
  | .addSub code => addSubDevices code g
  | .stopAddSub => stopAddSubDevices g
  | .removeSub node => removeSubDevices node g
  | .updateFw => FcomGateway.updateFw g
  | .mqttConnected => FcomGateway.mqttConnected g
  | .mqttDisconnected => FcomGateway.mqttDisconnected g
  | .mqttSend => mqttSendTask g
  | .heartbeat now id => checkHeartbeat now id g
  | .networkType => updateNetworkType g

theorem step_isSensorFeedback {g : Gateway} (h : g.isSensorFeedback = false) (event : Event) :
    (step g event).isSensorFeedback = false := by
  cases event with
  | rf input =>
    rcases rfHandleExtTask_cases input g with
      ⟨now, hHandle⟩ | ⟨_, ⟨mode, hPost⟩ | ⟨mode, count, status, hMove⟩⟩
    · rw [step, hHandle]
      exact sensorDataHandler_isSensorFeedback now _ h
    · rw [step, hPost]
      simpa using h
    · rw [step, hMove]
      exact h
  | hmi reads =>
    rcases hmiProcess_cases reads g with
      ⟨_, b, hIdle⟩ | ⟨_, hRegister⟩ | ⟨_, ⟨_, hReport⟩ | ⟨_, hReport⟩ | ⟨_, hReport⟩⟩
    · rw [step, hIdle]
      exact h
    · rw [step, hRegister, wiredRegister]
      split
      · simpa [postFeedback, addHeartbeat] using h
      · exact h
    all_goals
      rw [step, hReport]
      simpa [wiredT, wiredF, wiredE, postFeedback, addHeartbeat, recomputeAlarmStatus,
        setAlarmStatus, acceptWired] using h
  | addSub code => simpa [step, addSubDevices] using h
  | stopAddSub => simpa [step, stopAddSubDevices] using h
  | removeSub node =>
    rcases removeSubDevices_cases node g with ⟨_, hErase⟩ | ⟨_, hSame⟩
    · rw [step, hErase]
      exact h
    · rw [step, hSame]
      exact h
  | updateFw => simpa [step, FcomGateway.updateFw] using h
  | mqttConnected =>
    obtain ⟨_, _, _, hConnected⟩ := mqttConnected_eq g
    rw [step, hConnected]
    exact h
  | mqttDisconnected => exact h
  | mqttSend =>
    rcases mqttSendTask_cases g with hSame | ⟨event, rest, _, hHandle⟩
    · rw [step, hSame]
      exact h
    · obtain ⟨_, _, _, _, hSend, _⟩ := handleDataEvent_sends event { g with dataProcess := rest }
      rw [step, hHandle, hSend]
      exact h
  | heartbeat now id =>
    simp only [step, checkHeartbeat]
    split
    · split
      · simpa using h
      · exact h
    · exact h
  | networkType => simpa [step, updateNetworkType] using h

/-! ## What a step sends -/

/-- A step of a task other than the send task, which also leaves `is_mqtt_first_boot` alone. -/
structure Posts (events : List DataEvent) (g next : Gateway) : Prop where
  queue : ∃ more, next.dataProcess = g.dataProcess ++ more ∧ ∀ e ∈ more, e ∈ events
  firstBoot : next.isMqttFirstBoot = g.isMqttFirstBoot

namespace Posts

variable {events : List DataEvent} {g middle next : Gateway}

theorem of_eq (hQueue : next.dataProcess = g.dataProcess)
    (hFirst : next.isMqttFirstBoot = g.isMqttFirstBoot) : Posts events g next :=
  ⟨⟨[], by rw [hQueue, List.append_nil], fun _ h => absurd h List.not_mem_nil⟩, hFirst⟩

theorem trans (h : Posts events g middle) (h' : Posts events middle next) :
    Posts events g next := by
  obtain ⟨more, hQueue, hMore⟩ := h.queue
  obtain ⟨more', hQueue', hMore'⟩ := h'.queue
  refine ⟨⟨more ++ more', by rw [hQueue', hQueue, List.append_assoc], ?_⟩,
    h'.firstBoot.trans h.firstBoot⟩
  intro e he
  exact (List.mem_append.mp he).elim (hMore e) (hMore' e)

theorem send (event : DataEvent) (hEvent : event ∈ events)
    (hQueue : next.dataProcess = enqueue event g.dataProcess)
    (hFirst : next.isMqttFirstBoot = g.isMqttFirstBoot) : Posts events g next := by
  refine ⟨?_, hFirst⟩
  rw [hQueue, enqueue]
  split
  · exact ⟨[event], rfl, by simpa using hEvent⟩
  · exact ⟨[], (List.append_nil _).symm, fun _ h => absurd h List.not_mem_nil⟩

theorem count_eq (h : Posts events g next) {event : DataEvent} (hEvent : event ∉ events) :
    next.dataProcess.count event = g.dataProcess.count event := by
  obtain ⟨more, hQueue, hMore⟩ := h.queue
  rw [hQueue, List.count_append, List.count_eq_zero_of_not_mem fun hMem => hEvent (hMore _ hMem),
    Nat.add_zero]

theorem confirmRegistration (hEvent : .ssRegisterServer ∈ events) (g : Gateway) :
    Posts events g (FcomGateway.confirmRegistration g) := by
  rcases confirmRegistration_cases g with hSame | ⟨idev, _, _, _, hConfirm⟩
  · rw [hSame]
    exact of_eq rfl rfl
  · rw [hConfirm]
    exact send _ hEvent rfl rfl

theorem sendFeedback (hEvent : .ssFeedbackFlag ∈ events) (now : Int) (g : Gateway) :
    Posts events g (FcomGateway.sendFeedback now g) := by
  unfold FcomGateway.sendFeedback
  split
  · exact send _ hEvent rfl rfl
  · exact of_eq rfl rfl

theorem sensorDataHandler (hRegister : .ssRegisterServer ∈ events)
    (hFeedback : .ssFeedbackFlag ∈ events) (now : Int) (dtmp : List UInt8) (g : Gateway) :
    Posts events g (FcomGateway.sensorDataHandler now dtmp g) := by
  unfold FcomGateway.sensorDataHandler
  split
  · have hScan : Posts events g (scanBuffer dtmp g) := by
      rw [scanBuffer_eq]
      obtain ⟨_, _, _, _, _, _, _, _, hScans⟩ := frames_scans (frames dtmp) g
      rw [hScans]
      exact of_eq rfl rfl
    exact (hScan.trans (confirmRegistration hRegister _)).trans (sendFeedback hFeedback now _)
  · exact of_eq rfl rfl

end Posts

/-- The events that a step may send. -/
def Event.posts : Event → List DataEvent
  | .rf _ => [.gwFeedbackFlag, .ssRegisterServer, .ssFeedbackFlag]
  | .hmi _ => [.ssRegisterServer, .ssFeedbackFlag]
  | .addSub _ => [.jobRequestedFeedbackFlag]
  | .stopAddSub | .networkType => [.gwFeedbackFlag]
  | .updateFw => [.jobRequestedOta]
  | .mqttConnected => [.gwFeedbackFlag, .gwResetSsState]
  | .heartbeat _ _ => [.ssErrorFlag]
  | .removeSub _ | .mqttDisconnected | .mqttSend => []

theorem step_posts {event : Event} (hConnected : event ≠ .mqttConnected)
    (hSend : event ≠ .mqttSend) (g : Gateway) : Posts event.posts g (step g event) := by
  cases event with
  | rf input =>
    rcases rfHandleExtTask_cases input g with
      ⟨now, hHandle⟩ | ⟨_, ⟨mode, hPost⟩ | ⟨mode, count, status, hMove⟩⟩
    · rw [step, hHandle]
      exact Posts.sensorDataHandler (by simp [Event.posts]) (by simp [Event.posts]) now _ g
    · rw [step, hPost]
      exact Posts.send .gwFeedbackFlag (by simp [Event.posts]) rfl rfl
    · rw [step, hMove]
      exact Posts.of_eq rfl rfl
  | hmi reads =>
    have reported : ∀ {next : Gateway}, next.dataProcess = enqueue .ssFeedbackFlag g.dataProcess →
        next.isMqttFirstBoot = g.isMqttFirstBoot → Posts (Event.posts (.hmi reads)) g next :=
      fun hQueue hFirst => Posts.send _ (by simp [Event.posts]) hQueue hFirst
    obtain ⟨hT, hF, hE⟩ := wiredReport_effect reads g
    rcases hmiProcess_cases reads g with
      ⟨_, b, hIdle⟩ | ⟨_, hRegister⟩ | ⟨_, ⟨_, hReport⟩ | ⟨_, hReport⟩ | ⟨_, hReport⟩⟩
    · rw [step, hIdle]
      exact Posts.of_eq rfl rfl
    · rw [step, hRegister, wiredRegister]
      split
      · have hFirst : Posts (Event.posts (.hmi reads)) g (xQueueSend .ssRegisterServer g) :=
          Posts.send _ (by simp [Event.posts]) rfl rfl
        exact hFirst.trans (Posts.send .ssFeedbackFlag (by simp [Event.posts]) rfl rfl)
      · exact Posts.of_eq rfl rfl
    · rw [step, hReport]
      refine reported hT.queue ?_
      rw [wiredT, updateRelayAlarmState_eq]
      rfl
    · rw [step, hReport]
      refine reported hF.queue ?_
      rw [wiredF, updateRelayAlarmState_eq]
      rfl
    · rw [step, hReport]
      exact reported hE.queue rfl
  | addSub code => exact Posts.send .jobRequestedFeedbackFlag (by simp [Event.posts]) rfl rfl
  | stopAddSub | networkType =>
    exact Posts.send .gwFeedbackFlag (by simp [Event.posts]) rfl rfl
  | updateFw => exact Posts.send .jobRequestedOta (by simp [Event.posts]) rfl rfl
  | mqttDisconnected => exact Posts.of_eq rfl rfl
  | removeSub node =>
    rcases removeSubDevices_cases node g with ⟨_, hErase⟩ | ⟨_, hSame⟩
    · rw [step, hErase]
      exact Posts.of_eq rfl rfl
    · rw [step, hSame]
      exact Posts.of_eq rfl rfl
  | mqttConnected => exact absurd rfl hConnected
  | mqttSend => exact absurd rfl hSend
  | heartbeat now id =>
    simp only [step, checkHeartbeat]
    split
    · split
      · exact Posts.send .ssErrorFlag (by simp [Event.posts]) rfl rfl
      · exact Posts.of_eq rfl rfl
    · exact Posts.of_eq rfl rfl

def uartData (dtmp : List UInt8) : Event := .rf { elapsed := false, uart := some (0, dtmp) }

/-- The passes that take the RF task from boot to `LISTEN_SUB_EVENT`. -/
def startListening : List Event := List.replicate 8 (.rf { elapsed := true, uart := none })

/-- The registered detectors whose heartbeats `app_main` starts, in the order of the loop. -/
def initHeartbeat (d : SensorData) (clock : Nat → Int) : List Dtor :=
  (List.range' 1 d.maxDetector).foldl (fun list iter =>
    if d.deviceActivated iter = 1 then Heartbeat.addState iter (clock iter) list else list) []

/-- The state after `app_main`, with the table read from flash or the zero table. -/
def boot (saved : Option SensorData) (userReset : Bool) (clock : Nat → Int) : Gateway :=
  let table := saved.getD .zero
  relayInit {
    sensorData := table
    gatewayData := {
      mqttStatus := false
      alarmStatus := false
      userReset := userReset
      status := .normal }
    relay := false
    out24V := false
    ssStateMachine := .initCmd
    rfConfigMode := false
    switchListenMode := 0
    isRegisterSensor := false
    isSensorFeedback := false
    isStartAddDevice := false
    prevTimeMessageNormal := 0
    prevTimeMessageAlarm := 0
    isMqttFirstBoot := false
    dataProcess := []
    heartbeat := initHeartbeat table clock
    sensorDataFile := saved
    log := [] }

end FcomGateway
