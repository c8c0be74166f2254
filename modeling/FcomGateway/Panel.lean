import FcomGateway.Table

/-! # The alarm panel

What the siren and the alarm flag are about: the set of detectors in alarm, the two outputs and
the cached flag. Every event of the gateway acts on the panel as a list of four kinds of
operations, and the gateway's runs are runs of the panel.
-/

namespace FcomGateway

open EventTrace

structure Panel where
  relay : Bool
  out24V : Bool
  alarmStatus : Bool
  alarms : Finset Nat
  deriving DecidableEq

/-- A report drives the outputs, recomputes the flag, or does both; `vacate` stands for the
places that make an entry quiet and do neither. -/
inductive PanelOp
  | fire (d : Nat)
  | clear (d : Nat)
  | test (d : Nat)
  | vacate (d : Nat)
  deriving DecidableEq, Repr

def Panel.apply (p : Panel) : PanelOp → Panel
  | .fire d => { relay := true, out24V := true, alarmStatus := true, alarms := insert d p.alarms }
  | .clear d => { p with
      alarmStatus := decide (p.alarms.erase d).Nonempty
      alarms := p.alarms.erase d }
  | .test d => {
      relay := false
      out24V := false
      alarmStatus := decide (p.alarms.erase d).Nonempty
      alarms := p.alarms.erase d }
  | .vacate d => { p with alarms := p.alarms.erase d }

theorem nonempty_erase_iff {alarms : Finset Nat} {d : Nat} :
    (alarms.Nonempty ↔ (alarms.erase d).Nonempty) ↔ alarms ≠ {d} := by
  rw [Finset.nonempty_iff_ne_empty, Finset.nonempty_iff_ne_empty, not_iff_not,
    Finset.erase_eq_empty_iff]
  constructor
  · rintro h rfl
    exact Finset.singleton_ne_empty d (h.mpr (Or.inr rfl))
  · exact fun h => ⟨Or.inl, fun hEmpty => hEmpty.resolve_right h⟩

def Gateway.panel (g : Gateway) : Panel where
  relay := g.relay
  out24V := g.out24V
  alarmStatus := g.gatewayData.alarmStatus
  alarms := alarmed g.sensorData.dtorSensorState

/-! ## The operations of an event -/

def reportOp (letter : Report) (add : Nat) : PanelOp :=
  match letter with
  | .F => .fire add
  | .L | .E => .clear add
  | .T => .test add

def slotOps (d : SensorData) : List PanelOp := (freeSlot d).toList.map .vacate

def frameOps (d : SensorData) : Frame → List PanelOp
  | .request => slotOps d
  | .report letter add => [reportOp letter add]

def pollOps (g : Gateway) : Option PollAction → List PanelOp
  | some .register => slotOps g.sensorData
  | some (.report letter) => [reportOp letter g.sensorData.inputChannel]
  | none => []

/-- The registered detectors, which `GW_RESET_SS_STATE` makes quiet. -/
def resetOps (d : SensorData) : List PanelOp :=
  ((List.range' 1 d.maxDetector).filter fun c => d.deviceActivated c = 1).map .vacate

def removeOps (node : Int) (g : Gateway) : List PanelOp :=
  if Removable node g then [.vacate node.toNat] else []

def sendOps (g : Gateway) : List PanelOp :=
  if g.gatewayData.mqttStatus = true ∧ g.dataProcess.head? = some .gwResetSsState then
    resetOps g.sensorData
  else []

def panelOps (g : Gateway) : Event → List PanelOp
  | .rf input => (frames (received input g)).flatMap (frameOps g.sensorData)
  | .hmi reads => pollOps g (pollAction reads g)
  | .removeSub node => removeOps node g
  | .mqttSend => sendOps g
  | _ => []

/-! ## Functions that leave the panel alone -/

@[simp] theorem xQueueSend_panel (event : DataEvent) (g : Gateway) :
    (xQueueSend event g).panel = g.panel := rfl

@[simp] theorem postFeedback_panel (now : Int) (g : Gateway) :
    (postFeedback now g).panel = g.panel :=
  xQueueSend_panel .ssFeedbackFlag g

theorem confirmRegistration_panel (g : Gateway) : (confirmRegistration g).panel = g.panel := by
  obtain ⟨_, _, _, _, hWrites⟩ := confirmRegistration_writes g
  rw [hWrites]
  rfl

theorem sendFeedback_panel (now : Int) (g : Gateway) : (sendFeedback now g).panel = g.panel := by
  unfold sendFeedback
  split
  · exact xQueueSend_panel .ssFeedbackFlag { g with isSensorFeedback := false }
  · rfl

/-! ## Reports and hand-outs -/

theorem alarmStatus_recompute (g : Gateway) :
    (recomputeAlarmStatus g).panel =
      { g.panel with alarmStatus := decide g.panel.alarms.Nonempty } := by
  have hFlag : anyAlarm g.sensorData = decide g.panel.alarms.Nonempty :=
    Bool.eq_iff_iff.mpr (anyAlarm_iff.trans decide_eq_true_iff.symm)
  rw [← hFlag]
  rfl

theorem relay_panel {g : Gateway} {d : Nat} {b : Bool}
    (hState : b = decide (g.sensorData.dtorSensorState d = .alarmSt)) :
    (updateRelayAlarmState d g).panel = { g.panel with relay := b, out24V := b } := by
  rw [updateRelayAlarmState_eq, ← hState]
  rfl

section Accepted

variable {p : Panel} {g : Gateway} {d : Nat}

theorem fire_panel (hPanel : g.panel = { p with alarms := insert d p.alarms })
    (hState : g.sensorData.dtorSensorState d = .alarmSt) :
    (setAlarmStatus (updateRelayAlarmState d g)).panel = p.apply (.fire d) := by
  have hSet : (setAlarmStatus (updateRelayAlarmState d g)).panel =
      { (updateRelayAlarmState d g).panel with alarmStatus := true } := rfl
  rw [hSet, relay_panel (b := true) (by rw [hState]; rfl), hPanel]
  rfl

theorem clear_panel (hPanel : g.panel = { p with alarms := p.alarms.erase d }) :
    (recomputeAlarmStatus g).panel = p.apply (.clear d) := by
  rw [alarmStatus_recompute, hPanel]
  rfl

theorem test_panel (hPanel : g.panel = { p with alarms := p.alarms.erase d })
    (hState : g.sensorData.dtorSensorState d = .normalSt) :
    (recomputeAlarmStatus (updateRelayAlarmState d g)).panel = p.apply (.test d) := by
  rw [alarmStatus_recompute, relay_panel (b := false) (by rw [hState]; rfl), hPanel]
  rfl

end Accepted

theorem accepted_fire_panel (g : Gateway) {d : Nat} (hd : 1 ≤ d ∧ d ≤ MAX_DECTECTOR)
    (bat : Option BatState) : { g with sensorData := g.sensorData.record d .alarmSt bat }.panel =
      { g.panel with alarms := insert d g.panel.alarms } := by
  have hAlarms := alarmed_update_alarm g.sensorData.dtorSensorState hd
  rw [Gateway.panel, Gateway.panel, record_dtorSensorState, hAlarms]

theorem accepted_quiet_panel (g : Gateway) (d : Nat) {st : SensorState} (hSt : st ≠ .alarmSt)
    (bat : Option BatState) : { g with sensorData := g.sensorData.record d st bat }.panel =
      { g.panel with alarms := g.panel.alarms.erase d } := by
  have hAlarms := alarmed_update_quiet g.sensorData.dtorSensorState d hSt
  rw [Gateway.panel, Gateway.panel, record_dtorSensorState, hAlarms]

theorem branch_panel (letter : Report) {add : Nat} (hAdd : 1 ≤ add ∧ add ≤ MAX_DECTECTOR)
    (g : Gateway) : (letter.branch add g).panel = g.panel.apply (reportOp letter add) := by
  cases letter with
  | F => exact fire_panel (accepted_fire_panel g hAdd _) (Function.update_self ..)
  | L => exact clear_panel (accepted_quiet_panel g add (by decide) _)
  | E => exact clear_panel (accepted_quiet_panel g add (by decide) _)
  | T => exact test_panel (accepted_quiet_panel g add (by decide) _) (Function.update_self ..)

theorem wiredT_panel (reads : PollReads) (g : Gateway) :
    (wiredT reads g).panel = g.panel.apply (.test g.sensorData.inputChannel) := by
  rw [wiredT, postFeedback_panel]
  exact test_panel (accepted_quiet_panel g _ (by decide) _) (Function.update_self ..)

theorem wiredF_panel (reads : PollReads) {g : Gateway}
    (hChannel : 1 ≤ g.sensorData.inputChannel ∧ g.sensorData.inputChannel ≤ MAX_DECTECTOR) :
    (wiredF reads g).panel = g.panel.apply (.fire g.sensorData.inputChannel) := by
  rw [wiredF, postFeedback_panel]
  exact fire_panel (accepted_fire_panel g hChannel _) (Function.update_self ..)

theorem wiredE_panel (reads : PollReads) (g : Gateway) :
    (wiredE reads g).panel = g.panel.apply (.clear g.sensorData.inputChannel) := by
  rw [wiredE, postFeedback_panel]
  exact clear_panel (accepted_quiet_panel g _ (by decide) _)

theorem registerRequest_panel (g : Gateway) :
    (registerRequest g).panel = run Panel.apply g.panel (slotOps g.sensorData) := by
  unfold registerRequest slotOps
  split
  · rename_i c hFree
    rw [hFree]
    exact accepted_quiet_panel g c (by decide) none
  · rename_i hFull
    rw [hFull]
    rfl

theorem wiredRegister_panel (reads : PollReads) (g : Gateway) :
    (wiredRegister reads g).panel = run Panel.apply g.panel (slotOps g.sensorData) := by
  unfold wiredRegister slotOps
  split
  · rename_i c hFree
    rw [hFree, postFeedback_panel, xQueueSend_panel]
    exact accepted_quiet_panel g c (by decide) none
  · rename_i hFull
    rw [hFull]
    rfl

/-! ## Buffers -/

theorem applyFrame_deviceActivated (g : Gateway) (frame : Frame) :
    (applyFrame g frame).sensorData.deviceActivated = g.sensorData.deviceActivated := by
  cases frame with
  | request =>
    simp only [applyFrame, registerRequest]
    split <;> rfl
  | report letter add =>
    cases letter <;>
      simp [applyFrame, Report.branch, reportF, reportL, reportE, reportT, setAlarmStatus,
        recomputeAlarmStatus, acceptReport]

theorem applyFrame_frameOps (g : Gateway) (frame : Frame) :
    frameOps (applyFrame g frame).sensorData = frameOps g.sensorData := by
  funext next
  cases next with
  | request =>
    rw [frameOps, frameOps, slotOps, slotOps, freeSlot, freeSlot, applyFrame_deviceActivated]
  | report letter add => rfl

theorem frames_panel (list : List Frame)
    (hAdd : ∀ letter add, Frame.report letter add ∈ list → 1 ≤ add ∧ add ≤ MAX_DECTECTOR)
    (g : Gateway) : (list.foldl applyFrame g).panel =
      run Panel.apply g.panel (list.flatMap (frameOps g.sensorData)) := by
  induction list generalizing g with
  | nil => rfl
  | cons frame rest ih =>
    have hFrame : (applyFrame g frame).panel =
        run Panel.apply g.panel (frameOps g.sensorData frame) := by
      cases frame with
      | request => exact registerRequest_panel g
      | report letter add => exact branch_panel letter (hAdd letter add List.mem_cons_self) g
    rw [List.foldl_cons, ih (fun letter add hMem => hAdd letter add (List.mem_cons_of_mem _ hMem)),
      hFrame, applyFrame_frameOps, List.flatMap_cons, run_append]

theorem sensorDataHandler_panel (now : Int) (dtmp : List UInt8) (g : Gateway) :
    (sensorDataHandler now dtmp g).panel =
      run Panel.apply g.panel ((frames dtmp).flatMap (frameOps g.sensorData)) := by
  cases dtmp with
  | nil => rfl
  | cons b rest =>
    rw [sensorDataHandler_cons, sendFeedback_panel, confirmRegistration_panel, scanBuffer_eq]
    exact frames_panel _ (fun _ _ => frames_add_bounds) g

/-! ## Events -/

theorem rfHandleExtTask_panel (input : RfInput) (g : Gateway) :
    (rfHandleExtTask input g).panel =
      run Panel.apply g.panel ((frames (received input g)).flatMap (frameOps g.sensorData)) := by
  rcases rfHandleExtTask_cases input g with
    ⟨now, hHandle⟩ | ⟨hNone, ⟨mode, hPost⟩ | ⟨mode, count, status, hMove⟩⟩
  · rw [hHandle]
    exact sensorDataHandler_panel now _ g
  · rw [hPost, hNone]
    exact xQueueSend_panel .gwFeedbackFlag g
  · rw [hMove, hNone]
    rfl

theorem hmiProcess_panel (reads : PollReads) {g : Gateway}
    (hBound : g.sensorData.inputChannel ≤ MAX_DECTECTOR) :
    (hmiProcess reads g).panel =
      run Panel.apply g.panel (pollOps g (pollAction reads g)) := by
  rcases hmiProcess_cases reads g with
    ⟨hNone, b, hIdle⟩ | ⟨hAction, hRegister⟩ | ⟨hChannel, ⟨hAction, hReport⟩ |
      ⟨hAction, hReport⟩ | ⟨hAction, hReport⟩⟩
  · rw [hNone, hIdle]
    rfl
  · rw [hAction, hRegister]
    exact wiredRegister_panel reads { g with isStartAddDevice := true }
  · rw [hAction, hReport]
    exact wiredT_panel reads g
  · rw [hAction, hReport]
    exact wiredF_panel reads ⟨Nat.one_le_iff_ne_zero.mpr hChannel, hBound⟩
  · rw [hAction, hReport]
    exact wiredE_panel reads g

theorem resetDetector_panel (g : Gateway) (c : Nat) : (resetDetector g c).panel =
    if g.sensorData.deviceActivated c = 1 then g.panel.apply (.vacate c) else g.panel := by
  unfold resetDetector
  by_cases hActive : g.sensorData.deviceActivated c = 1
  · by_cases hAlarm : g.sensorData.dtorSensorState c = .alarmSt
    · rw [if_pos ⟨hActive, hAlarm⟩, if_pos hActive]
      exact accepted_quiet_panel g c (by decide) none
    · have hSame : g.panel.alarms.erase c = g.panel.alarms :=
        Finset.erase_eq_of_notMem fun hMem => hAlarm (mem_alarmed.mp hMem).2
      rw [if_neg fun h => hAlarm h.2, if_pos hActive, Panel.apply, hSame]
  · rw [if_neg fun h => hActive h.1, if_neg hActive]

theorem resetDetector_deviceActivated (g : Gateway) (c : Nat) :
    (resetDetector g c).sensorData.deviceActivated = g.sensorData.deviceActivated := by
  unfold resetDetector
  split <;> rfl

theorem resetSsState_panel (g : Gateway) :
    (resetSsState g).panel = run Panel.apply g.panel (resetOps g.sensorData) := by
  unfold resetSsState resetOps
  generalize List.range' 1 g.sensorData.maxDetector = cs
  induction cs generalizing g with
  | nil => rfl
  | cons c cs ih =>
    rw [List.foldl_cons, ih, resetDetector_deviceActivated, resetDetector_panel]
    by_cases hActive : g.sensorData.deviceActivated c = 1
    · simp [hActive]
    · simp [hActive]

theorem uploadDetector_panel (g : Gateway) (c : Nat) :
    (uploadDetector g c).panel = g.panel := by
  unfold uploadDetector
  split <;> rfl

theorem uploadDetectors_panel (cs : List Nat) (g : Gateway) :
    (cs.foldl uploadDetector g).panel = g.panel := by
  induction cs generalizing g with
  | nil => rfl
  | cons c cs ih => rw [List.foldl_cons, ih, uploadDetector_panel]

theorem mqttSendTask_panel (g : Gateway) :
    (mqttSendTask g).panel = run Panel.apply g.panel (sendOps g) := by
  unfold mqttSendTask sendOps
  by_cases hStatus : g.gatewayData.mqttStatus = true
  · rw [if_pos hStatus]
    cases hQueue : g.dataProcess with
    | nil => simp
    | cons event rest =>
      cases event with
      | gwResetSsState =>
        rw [if_pos ⟨hStatus, rfl⟩]
        exact resetSsState_panel { g with dataProcess := rest }
      | ssUploadDb =>
        rw [if_neg (by simp)]
        exact uploadDetectors_panel _ _
      | _ =>
        rw [if_neg (by simp)]
        rfl
  · rw [if_neg hStatus, if_neg fun h => hStatus h.1]
    rfl

theorem removeSubDevices_panel (node : Int) (g : Gateway) :
    (removeSubDevices node g).panel = run Panel.apply g.panel (removeOps node g) := by
  unfold removeOps
  rcases removeSubDevices_cases node g with ⟨hRemove, hErase⟩ | ⟨hRemove, hSame⟩
  · rw [hErase, if_pos hRemove]
    exact accepted_quiet_panel g node.toNat (by decide) none
  · rw [hSame, if_neg hRemove]
    rfl

theorem mqttConnected_panel (g : Gateway) : (mqttConnected g).panel = g.panel := by
  obtain ⟨_, _, _, hConnected⟩ := mqttConnected_eq g
  rw [hConnected]
  rfl

theorem checkHeartbeat_panel (now : Int) (id : Nat) (g : Gateway) :
    (checkHeartbeat now id g).panel = g.panel := by
  unfold checkHeartbeat
  split
  · split <;> rfl
  · rfl

/-- Every event acts on the panel as its list of operations. -/
theorem panel_step {g : Gateway} (hBound : g.sensorData.inputChannel ≤ MAX_DECTECTOR)
    (event : Event) : (step g event).panel = run Panel.apply g.panel (panelOps g event) := by
  cases event with
  | rf input => exact rfHandleExtTask_panel input g
  | hmi reads => exact hmiProcess_panel reads hBound
  | addSub code | stopAddSub => rfl
  | removeSub node => exact removeSubDevices_panel node g
  | updateFw | networkType => rfl
  | mqttConnected => exact mqttConnected_panel g
  | mqttDisconnected => rfl
  | mqttSend => exact mqttSendTask_panel g
  | heartbeat now id => exact checkHeartbeat_panel now id g

end FcomGateway
