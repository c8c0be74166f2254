import FcomGateway.Gateway

/-! # `mqtt_send_task` and the MQTT events of `mqtt_task.c`

One pass of the send task takes at most one event from `data_process`, and only while the
gateway is connected. The three events about a detector carry no number: the packet is built
for whatever `curDetector` holds when the event is taken.
-/

namespace FcomGateway

def publish (packet : Packet) (g : Gateway) : Gateway := g.record (.published packet)

def publishSensorData (subId : Nat) (g : Gateway) : Gateway :=
  publish (.sensorData subId (g.sensorData.dtorSensorState subId)
    (g.sensorData.dtorBatState subId)) g

/-- The body of the loop under `GW_RESET_SS_STATE`. -/
def resetDetector (g : Gateway) (c : Nat) : Gateway :=
  if g.sensorData.deviceActivated c = 1 ∧ g.sensorData.dtorSensorState c = .alarmSt then
    flashSaveSensorData (publishSensorData c { g with sensorData := { g.sensorData with
      dtorSensorState := Function.update g.sensorData.dtorSensorState c .normalSt } })
  else g

def resetSsState (g : Gateway) : Gateway :=
  (List.range' 1 g.sensorData.maxDetector).foldl resetDetector g

/-- The body of the loop under `SS_UPLOAD_DB`. -/
def uploadDetector (g : Gateway) (c : Nat) : Gateway :=
  if g.sensorData.deviceActivated c = 1 then flashSaveSensorData (publishSensorData c g) else g

def handleDataEvent (event : DataEvent) (g : Gateway) : Gateway :=
  match event with
  | .gwResetSsState => resetSsState g
  | .ssFeedbackFlag => flashSaveSensorData (publishSensorData g.sensorData.curDetector g)
  | .gwFeedbackFlag => publish (.gatewayData g.gatewayData.status) g
  | .jobRequestedFeedbackFlag => publish .jobRequestedFeedback g
  | .ssRegisterServer => publish (.fbSsProcess g.sensorData.curDetector) g
  | .ssUploadDb => (List.range' 1 g.sensorData.maxDetector).foldl uploadDetector g
  | .jobRequestedOta => { g with gatewayData := { g.gatewayData with mqttStatus := false } }
  | .ssErrorFlag => publish (.sensorError g.sensorData.curDetector) g
  | .gwAddSubDeviceFlag => g

def mqttSendTask (g : Gateway) : Gateway :=
  if g.gatewayData.mqttStatus then
    match g.dataProcess with
    | event :: rest => handleDataEvent event { g with dataProcess := rest }
    | [] => g
  else g

/-! ## What a pass can change -/

/-- Entries of the table, the saved table and the connection flag may differ, and some packets
have been published. -/
def Sends (g next : Gateway) : Prop :=
  ∃ states file status log, next = { g with
    sensorData := { g.sensorData with dtorSensorState := states }
    gatewayData := { g.gatewayData with mqttStatus := status }
    sensorDataFile := file
    log := log } ∧ ∃ packets : List Packet, log = g.log ++ packets.map .published

namespace Sends

theorem quiet {g next : Gateway} (h : ∃ states file status, next = { g with
    sensorData := { g.sensorData with dtorSensorState := states }
    gatewayData := { g.gatewayData with mqttStatus := status }
    sensorDataFile := file }) : Sends g next := by
  obtain ⟨_, _, _, rfl⟩ := h
  exact ⟨_, _, _, _, rfl, [], (List.append_nil _).symm⟩

theorem refl (g : Gateway) : Sends g g := quiet ⟨_, _, _, rfl⟩

theorem trans {g middle next : Gateway} (h : Sends g middle) (h' : Sends middle next) :
    Sends g next := by
  obtain ⟨_, _, _, _, rfl, packets, rfl⟩ := h
  obtain ⟨_, _, _, _, rfl, packets', rfl⟩ := h'
  exact ⟨_, _, _, _, rfl, packets ++ packets', by simp⟩

theorem publish (g : Gateway) (packet : Packet) : Sends g (FcomGateway.publish packet g) :=
  ⟨_, _, _, _, rfl, [packet], rfl⟩

theorem save (g : Gateway) : Sends g (flashSaveSensorData g) := quiet ⟨_, _, _, rfl⟩

theorem foldl {f : Gateway → Nat → Gateway} (hf : ∀ g c, Sends g (f g c)) (cs : List Nat)
    (g : Gateway) : Sends g (cs.foldl f g) := by
  induction cs generalizing g with
  | nil => exact refl g
  | cons c cs ih => exact (hf g c).trans (ih (f g c))

end Sends

theorem resetDetector_sends (g : Gateway) (c : Nat) : Sends g (resetDetector g c) := by
  unfold resetDetector
  split
  · have hQuiet : Sends g { g with sensorData := { g.sensorData with
        dtorSensorState := Function.update g.sensorData.dtorSensorState c .normalSt } } :=
      Sends.quiet ⟨_, _, _, rfl⟩
    exact (hQuiet.trans (Sends.publish _ _)).trans (Sends.save _)
  · exact Sends.refl g

theorem uploadDetector_sends (g : Gateway) (c : Nat) : Sends g (uploadDetector g c) := by
  unfold uploadDetector
  split
  · exact (Sends.publish _ _).trans (Sends.save _)
  · exact Sends.refl g

theorem handleDataEvent_sends (event : DataEvent) (g : Gateway) :
    Sends g (handleDataEvent event g) := by
  cases event with
  | gwResetSsState => exact Sends.foldl resetDetector_sends _ g
  | ssUploadDb => exact Sends.foldl uploadDetector_sends _ g
  | ssFeedbackFlag => exact (Sends.publish _ _).trans (Sends.save _)
  | gwFeedbackFlag | jobRequestedFeedbackFlag | ssRegisterServer | ssErrorFlag =>
    exact Sends.publish g _
  | jobRequestedOta => exact Sends.quiet ⟨_, _, _, rfl⟩
  | gwAddSubDeviceFlag => exact Sends.refl g

theorem handleDataEvent_dataProcess (event : DataEvent) (g : Gateway) :
    (handleDataEvent event g).dataProcess = g.dataProcess := by
  obtain ⟨_, _, _, _, hNext, _⟩ := handleDataEvent_sends event g
  rw [hNext]

theorem handleDataEvent_curDetector (event : DataEvent) (g : Gateway) :
    (handleDataEvent event g).sensorData.curDetector = g.sensorData.curDetector := by
  obtain ⟨_, _, _, _, hNext, _⟩ := handleDataEvent_sends event g
  rw [hNext]

theorem resetDetector_gatewayData (g : Gateway) (c : Nat) :
    (resetDetector g c).gatewayData = g.gatewayData := by
  unfold resetDetector
  split <;> rfl

theorem uploadDetector_gatewayData (g : Gateway) (c : Nat) :
    (uploadDetector g c).gatewayData = g.gatewayData := by
  unfold uploadDetector
  split <;> rfl

theorem foldl_gatewayData {f : Gateway → Nat → Gateway}
    (hf : ∀ g c, (f g c).gatewayData = g.gatewayData) (cs : List Nat) (g : Gateway) :
    (cs.foldl f g).gatewayData = g.gatewayData := by
  induction cs generalizing g with
  | nil => rfl
  | cons c cs ih => exact (ih (f g c)).trans (hf g c)

theorem handleDataEvent_gatewayData {event : DataEvent} (h : event ≠ .jobRequestedOta)
    (g : Gateway) : (handleDataEvent event g).gatewayData = g.gatewayData := by
  cases event with
  | jobRequestedOta => exact absurd rfl h
  | gwResetSsState => exact foldl_gatewayData resetDetector_gatewayData _ g
  | ssUploadDb => exact foldl_gatewayData uploadDetector_gatewayData _ g
  | ssFeedbackFlag | gwFeedbackFlag | jobRequestedFeedbackFlag | ssRegisterServer | ssErrorFlag
  | gwAddSubDeviceFlag => rfl

theorem mqttSendTask_cases (g : Gateway) : mqttSendTask g = g ∨
    ∃ event rest, g.dataProcess = event :: rest ∧
      mqttSendTask g = handleDataEvent event { g with dataProcess := rest } := by
  unfold mqttSendTask
  split
  · split
    · rename_i event rest hQueue
      exact Or.inr ⟨event, rest, hQueue, rfl⟩
    · exact Or.inl rfl
  · exact Or.inl rfl

def mqttConnected (g : Gateway) : Gateway :=
  let g := { g with gatewayData := { g.gatewayData with mqttStatus := true } }
  if g.isMqttFirstBoot = false then
    let g := xQueueSend .gwFeedbackFlag g
    let g :=
      if g.gatewayData.userReset then
        let g := xQueueSend .gwResetSsState g
        { g with gatewayData := { g.gatewayData with userReset := false } }
      else g
    { g with isMqttFirstBoot := true }
  else g

theorem mqttConnected_eq (g : Gateway) : ∃ more reset first, mqttConnected g =
    { g with
      gatewayData := { g.gatewayData with mqttStatus := true, userReset := reset }
      isMqttFirstBoot := first
      dataProcess := g.dataProcess ++ more } := by
  obtain ⟨more, hQueue⟩ := enqueue_eq .gwFeedbackFlag g.dataProcess
  obtain ⟨more', hQueue'⟩ := enqueue_eq .gwResetSsState (g.dataProcess ++ more)
  unfold mqttConnected
  dsimp only [xQueueSend]
  rw [hQueue]
  split
  · split
    · rw [hQueue', List.append_assoc]
      exact ⟨_, _, _, rfl⟩
    · exact ⟨_, _, _, rfl⟩
  · exact ⟨[], _, _, by rw [List.append_nil]⟩

/-- `MQTT_EVENT_DISCONNECTED` and `MQTT_EVENT_ERROR` -/
def mqttDisconnected (g : Gateway) : Gateway :=
  { g with gatewayData := { g.gatewayData with mqttStatus := false } }

end FcomGateway
