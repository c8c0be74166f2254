import FcomGateway.Gateway

/-! # The wired inputs: `hmi_process` of `hmi_service.c`

One pass of the loop after the key scan. Every call of `gpio_get_level` and of
`esp_timer_get_time` may see another value, so a pass is given one reading for each call.
-/

namespace FcomGateway

/-- The levels of the two input pins (`true` is level 1) and the clock in one pass, in the order
in which the pass asks for them. -/
structure PollReads where
  registerFire : Bool
  registerFault : Bool
  releaseFire : Bool
  releaseFault : Bool
  normalFire : Bool
  normalFault : Bool
  alarmFire : Bool
  errorFault : Bool
  checkTime : Int
  stampTime : Int
  addTime : Int
  deriving DecidableEq, Repr

def SEND_MESSAGE_NORMAL_TIME : Int := 5000 * 1000

def SEND_MESSAGE_ALARM_TIME : Int := 10000 * 1000

/-- The 64-bit clock stored in a `uint32_t`. -/
def toUint32 (time : Int) : Int := time % 2 ^ 32

def acceptWired (letter : Report) (st : SensorState) (bat : Option BatState) (g : Gateway) :
    Gateway :=
  { (g.record (.wiredReport letter g.sensorData.inputChannel)) with
    sensorData := g.sensorData.record g.sensorData.inputChannel st bat }

def postFeedback (now : Int) (g : Gateway) : Gateway :=
  addHeartbeat g.sensorData.curDetector now (xQueueSend .ssFeedbackFlag g)

def wiredT (reads : PollReads) (g : Gateway) : Gateway :=
  let g := acceptWired .T .normalSt (some .high)
    { g with prevTimeMessageNormal := toUint32 reads.stampTime }
  let g := updateRelayAlarmState g.sensorData.curDetector g
  postFeedback reads.addTime (recomputeAlarmStatus g)

def wiredF (reads : PollReads) (g : Gateway) : Gateway :=
  let g := acceptWired .F .alarmSt none
    { g with prevTimeMessageAlarm := toUint32 reads.stampTime }
  let g := updateRelayAlarmState g.sensorData.curDetector g
  postFeedback reads.addTime (setAlarmStatus g)

def wiredE (reads : PollReads) (g : Gateway) : Gateway :=
  let g := acceptWired .E .errorSt none
    { g with prevTimeMessageAlarm := toUint32 reads.stampTime }
  postFeedback reads.addTime (recomputeAlarmStatus g)

def wiredRegister (reads : PollReads) (g : Gateway) : Gateway :=
  match freeSlot g.sensorData with
  | some c =>
    let g := { (g.record (.wiredSlot c)) with
      sensorData := { g.sensorData.prepare c with
        inputChannel := c
        deviceActivated := Function.update g.sensorData.deviceActivated c 1
        curDetector := c }
      ssStateMachine := .configListenMode }
    postFeedback reads.addTime (xQueueSend .ssRegisterServer g)
  | none => g

def pollRegister (reads : PollReads) (g : Gateway) : Gateway :=
  if reads.registerFire = false ∧ reads.registerFault = false then
    if g.isStartAddDevice = false then wiredRegister reads { g with isStartAddDevice := true }
    else g
  else g

def pollListen (reads : PollReads) (g : Gateway) : Gateway :=
  if g.isStartAddDevice = true then
    if reads.releaseFire = false ∧ reads.releaseFault = false then g
    else { g with isStartAddDevice := false }
  else if reads.normalFire = true ∧ reads.normalFault = false ∧ g.sensorData.inputChannel ≠ 0 then
    if reads.checkTime - g.prevTimeMessageNormal > SEND_MESSAGE_NORMAL_TIME then wiredT reads g
    else g
  else if reads.alarmFire = false ∧ g.sensorData.inputChannel ≠ 0 then
    if reads.checkTime - g.prevTimeMessageAlarm > SEND_MESSAGE_ALARM_TIME then wiredF reads g
    else g
  else if reads.errorFault = true ∧ g.sensorData.inputChannel ≠ 0 then
    if reads.checkTime - g.prevTimeMessageAlarm > SEND_MESSAGE_ALARM_TIME then wiredE reads g
    else g
  else g

def hmiProcess (reads : PollReads) (g : Gateway) : Gateway :=
  match g.ssStateMachine with
  | .registerSub => pollRegister reads g
  | .listenSubEvent => pollListen reads g
  | _ => g

/-! ## What a pass does -/

inductive PollAction
  | register
  | report (letter : Report)
  deriving DecidableEq, Repr

def registerAction (reads : PollReads) (g : Gateway) : Option PollAction :=
  if reads.registerFire = false ∧ reads.registerFault = false ∧ g.isStartAddDevice = false then
    some .register
  else none

def listenAction (reads : PollReads) (g : Gateway) : Option PollAction :=
  if g.isStartAddDevice = true ∨ g.sensorData.inputChannel = 0 then none
  else if reads.normalFire = true ∧ reads.normalFault = false then
    if reads.checkTime - g.prevTimeMessageNormal > SEND_MESSAGE_NORMAL_TIME then
      some (.report .T)
    else none
  else if reads.checkTime - g.prevTimeMessageAlarm > SEND_MESSAGE_ALARM_TIME then
    if reads.alarmFire = false then some (.report .F)
    else if reads.errorFault = true then some (.report .E)
    else none
  else none

def pollAction (reads : PollReads) (g : Gateway) : Option PollAction :=
  match g.ssStateMachine with
  | .registerSub => registerAction reads g
  | .listenSubEvent => listenAction reads g
  | _ => none

theorem pollRegister_cases (reads : PollReads) (g : Gateway) :
    (registerAction reads g = none ∧ pollRegister reads g = g) ∨
    (registerAction reads g = some .register ∧
      pollRegister reads g = wiredRegister reads { g with isStartAddDevice := true }) := by
  unfold registerAction pollRegister
  by_cases hPins : reads.registerFire = false ∧ reads.registerFault = false
  · rw [if_pos hPins]
    by_cases hStart : g.isStartAddDevice = false
    · rw [if_pos hStart, if_pos ⟨hPins.1, hPins.2, hStart⟩]
      exact Or.inr ⟨rfl, rfl⟩
    · rw [if_neg hStart, if_neg fun h => hStart h.2.2]
      exact Or.inl ⟨rfl, rfl⟩
  · rw [if_neg hPins, if_neg fun h => hPins ⟨h.1, h.2.1⟩]
    exact Or.inl ⟨rfl, rfl⟩

def Idle (g next : Gateway) : Prop := ∃ b, next = { g with isStartAddDevice := b }

theorem Idle.refl (g : Gateway) : Idle g g := ⟨g.isStartAddDevice, rfl⟩

theorem pollListen_cases (reads : PollReads) (g : Gateway) :
    (listenAction reads g = none ∧ Idle g (pollListen reads g)) ∨
    (g.sensorData.inputChannel ≠ 0 ∧
      ((listenAction reads g = some (.report .T) ∧ pollListen reads g = wiredT reads g) ∨
        (listenAction reads g = some (.report .F) ∧ pollListen reads g = wiredF reads g) ∨
        (listenAction reads g = some (.report .E) ∧ pollListen reads g = wiredE reads g))) := by
  unfold listenAction pollListen
  by_cases hStart : g.isStartAddDevice = true
  · rw [if_pos hStart, if_pos (Or.inl hStart)]
    refine Or.inl ⟨rfl, ?_⟩
    split
    · exact Idle.refl g
    · exact ⟨false, rfl⟩
  by_cases hChannel : g.sensorData.inputChannel = 0
  · simp [hStart, hChannel, Idle.refl]
  simp only [hStart, hChannel, ne_eq, not_false_eq_true, and_true, true_and]
  by_cases hNormal : reads.normalFire = true ∧ reads.normalFault = false
  · by_cases hTime : reads.checkTime - g.prevTimeMessageNormal > SEND_MESSAGE_NORMAL_TIME <;>
      simp [hNormal, hTime, Idle.refl]
  by_cases hTime : reads.checkTime - g.prevTimeMessageAlarm > SEND_MESSAGE_ALARM_TIME
  · by_cases hFire : reads.alarmFire = false
    · simp [hNormal, hTime, hFire]
    · by_cases hFault : reads.errorFault = true <;>
        simp [hNormal, hTime, hFire, hFault, Idle.refl]
  · simp [hNormal, hTime, Idle.refl]

/-- Every pass of the HMI task either takes its writing branch or touches nothing but
`is_start_add_device`. -/
theorem hmiProcess_cases (reads : PollReads) (g : Gateway) :
    (pollAction reads g = none ∧ Idle g (hmiProcess reads g)) ∨
    (pollAction reads g = some .register ∧
      hmiProcess reads g = wiredRegister reads { g with isStartAddDevice := true }) ∨
    (g.sensorData.inputChannel ≠ 0 ∧
      ((pollAction reads g = some (.report .T) ∧ hmiProcess reads g = wiredT reads g) ∨
        (pollAction reads g = some (.report .F) ∧ hmiProcess reads g = wiredF reads g) ∨
        (pollAction reads g = some (.report .E) ∧ hmiProcess reads g = wiredE reads g))) := by
  unfold hmiProcess pollAction
  split
  · rcases pollRegister_cases reads g with ⟨hNone, hSame⟩ | ⟨hAction, hRegister⟩
    · refine Or.inl ⟨hNone, ?_⟩
      rw [hSame]
      exact Idle.refl g
    · exact Or.inr (Or.inl ⟨hAction, hRegister⟩)
  · exact (pollListen_cases reads g).imp id Or.inr
  · exact Or.inl ⟨rfl, Idle.refl g⟩

structure WiredReport (letter : Report) (g next : Gateway) : Prop where
  cur : next.sensorData.curDetector = g.sensorData.inputChannel
  log : next.log = g.log ++ [.wiredReport letter g.sensorData.inputChannel]
  queue : next.dataProcess = enqueue .ssFeedbackFlag g.dataProcess

theorem wiredReport_effect (reads : PollReads) (g : Gateway) :
    WiredReport .T g (wiredT reads g) ∧ WiredReport .F g (wiredF reads g) ∧
      WiredReport .E g (wiredE reads g) := by
  refine ⟨⟨?_, ?_, ?_⟩, ⟨?_, ?_, ?_⟩, ⟨?_, ?_, ?_⟩⟩ <;>
    simp [wiredT, wiredF, wiredE, postFeedback, addHeartbeat, recomputeAlarmStatus,
      setAlarmStatus, acceptWired]

end FcomGateway
