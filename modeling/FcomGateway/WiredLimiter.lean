import Mathlib.Data.List.Chain
import FcomGateway.System

/-! # The message limiter of the wired inputs

`hmi_process` reports the wired inputs only when enough time has passed since the last report.
The entry of the detector changes inside the same branches, and the time of the last report is
kept in 32 bits of a 64-bit clock.
-/

namespace FcomGateway

open EventTrace

/-! ## Fire polls -/

/-- The HMI task watches a registered wired detector. -/
structure WiredListening (g : Gateway) : Prop where
  mode : g.ssStateMachine = .listenSubEvent
  channel : g.sensorData.inputChannel ≠ 0
  started : g.isStartAddDevice = false

/-- Every look at `INPUT_FIRE_PIN` in the pass reads 0. -/
def FireLow (reads : PollReads) : Prop := reads.normalFire = false ∧ reads.alarmFire = false

def FireSeen (g : Gateway) : Prop :=
  g.sensorData.dtorSensorState g.sensorData.inputChannel = .alarmSt ∧ g.relay = true ∧
    g.gatewayData.alarmStatus = true

instance (reads : PollReads) : Decidable (FireLow reads) := inferInstanceAs (Decidable (_ ∧ _))

instance (g : Gateway) : Decidable (FireSeen g) := inferInstanceAs (Decidable (_ ∧ _ ∧ _))

def hmiStep (g : Gateway) (reads : PollReads) : Gateway := hmiProcess reads g

/-- The limiter lets a fire or fault report through. -/
def AlarmDue (g : Gateway) (reads : PollReads) : Prop :=
  SEND_MESSAGE_ALARM_TIME < reads.checkTime - g.prevTimeMessageAlarm

instance (g : Gateway) (reads : PollReads) : Decidable (AlarmDue g reads) :=
  inferInstanceAs (Decidable (_ < _))

theorem Idle.eq_of_started {g next : Gateway} (h : Idle g next)
    (hStarted : next.isStartAddDevice = g.isStartAddDevice) : next = g := by
  obtain ⟨b, rfl⟩ := h
  have hFlag : b = g.isStartAddDevice := hStarted
  rw [hFlag]

section Wired

variable (reads : PollReads) (g : Gateway)

/-- What a report of the wired inputs leaves of the HMI task's own state. -/
theorem wired_mode :
    ((wiredT reads g).ssStateMachine = g.ssStateMachine ∧
      (wiredT reads g).sensorData.inputChannel = g.sensorData.inputChannel ∧
      (wiredT reads g).isStartAddDevice = g.isStartAddDevice) ∧
    ((wiredF reads g).ssStateMachine = g.ssStateMachine ∧
      (wiredF reads g).sensorData.inputChannel = g.sensorData.inputChannel ∧
      (wiredF reads g).isStartAddDevice = g.isStartAddDevice) ∧
    ((wiredE reads g).ssStateMachine = g.ssStateMachine ∧
      (wiredE reads g).sensorData.inputChannel = g.sensorData.inputChannel ∧
      (wiredE reads g).isStartAddDevice = g.isStartAddDevice) := by
  rw [wiredT, wiredF, wiredE, updateRelayAlarmState_eq, updateRelayAlarmState_eq]
  exact ⟨⟨rfl, rfl, rfl⟩, ⟨rfl, rfl, rfl⟩, rfl, rfl, rfl⟩

theorem pollListen_started (h : g.isStartAddDevice = false) :
    (pollListen reads g).isStartAddDevice = g.isStartAddDevice := by
  obtain ⟨⟨_, _, hT⟩, ⟨_, _, hF⟩, _, _, hE⟩ := wired_mode reads g
  rw [pollListen, if_neg (by rw [h]; decide)]
  split
  · split
    · exact hT
    · rfl
  · split
    · split
      · exact hF
      · rfl
    · split
      · split
        · exact hE
        · rfl
      · rfl

theorem fireSeen_wired : ¬ FireSeen (wiredT reads g) ∧ FireSeen (wiredF reads g) ∧
    ¬ FireSeen (wiredE reads g) := by
  rw [wiredT, wiredF, wiredE, updateRelayAlarmState_eq, updateRelayAlarmState_eq]
  refine ⟨?_, ?_, ?_⟩ <;>
    simp [FireSeen, acceptWired, postFeedback, addHeartbeat, setAlarmStatus,
      recomputeAlarmStatus, SensorData.record]

end Wired

theorem hmiStep_cases {g : Gateway} (h : WiredListening g) (reads : PollReads) :
    (pollAction reads g = none ∧ hmiStep g reads = g) ∨
    (pollAction reads g = some (.report .T) ∧ hmiStep g reads = wiredT reads g) ∨
    (pollAction reads g = some (.report .F) ∧ hmiStep g reads = wiredF reads g) ∨
    (pollAction reads g = some (.report .E) ∧ hmiStep g reads = wiredE reads g) := by
  have hStep : hmiStep g reads = pollListen reads g := by rw [hmiStep, hmiProcess, h.mode]
  have hAction : pollAction reads g = listenAction reads g := by rw [pollAction, h.mode]
  rw [hStep, hAction]
  rcases pollListen_cases reads g with ⟨hNone, hIdle⟩ | ⟨_, hReport⟩
  · exact Or.inl ⟨hNone, hIdle.eq_of_started (pollListen_started reads g h.started)⟩
  · exact Or.inr hReport

theorem WiredListening.hmiStep {g : Gateway} (h : WiredListening g) (reads : PollReads) :
    WiredListening (hmiStep g reads) := by
  obtain ⟨⟨hModeT, hChannelT, hStartT⟩, ⟨hModeF, hChannelF, hStartF⟩,
    hModeE, hChannelE, hStartE⟩ := wired_mode reads g
  obtain ⟨hMode, hChannel, hStarted⟩ := h
  rcases hmiStep_cases ⟨hMode, hChannel, hStarted⟩ reads with
    ⟨_, hNext⟩ | ⟨_, hNext⟩ | ⟨_, hNext⟩ | ⟨_, hNext⟩
  · rw [hNext]
    exact ⟨hMode, hChannel, hStarted⟩
  · rw [hNext]
    exact ⟨hModeT.trans hMode, hChannelT.symm ▸ hChannel, hStartT.trans hStarted⟩
  · rw [hNext]
    exact ⟨hModeF.trans hMode, hChannelF.symm ▸ hChannel, hStartF.trans hStarted⟩
  · rw [hNext]
    exact ⟨hModeE.trans hMode, hChannelE.symm ▸ hChannel, hStartE.trans hStarted⟩

/-- The alarm is up after a pass if the report it accepted was fire, or if it accepted none and
the alarm was up before. -/
theorem fireSeen_hmiStep {g : Gateway} (h : WiredListening g) (reads : PollReads) :
    FireSeen (hmiStep g reads) ↔
      pollAction reads g = some (.report .F) ∨ pollAction reads g = none ∧ FireSeen g := by
  obtain ⟨hT, hF, hE⟩ := fireSeen_wired reads g
  rcases hmiStep_cases h reads with
    ⟨hAction, hNext⟩ | ⟨hAction, hNext⟩ | ⟨hAction, hNext⟩ | ⟨hAction, hNext⟩
  · rw [hNext, hAction]
    simp
  · rw [hNext, hAction]
    exact iff_of_false hT (by simp)
  · rw [hNext, hAction]
    exact iff_of_true hF (Or.inl rfl)
  · rw [hNext, hAction]
    exact iff_of_false hE (by simp)

theorem pollAction_fireLow {g : Gateway} (h : WiredListening g) {reads : PollReads}
    (hLow : FireLow reads) :
    (AlarmDue g reads ∧ pollAction reads g = some (.report .F)) ∨
      (¬ AlarmDue g reads ∧ pollAction reads g = none) := by
  have hAction : pollAction reads g = listenAction reads g := by rw [pollAction, h.mode]
  rw [hAction, listenAction, if_neg (by simp [h.started, h.channel]),
    if_neg (by simp [hLow.1])]
  by_cases hDue : AlarmDue g reads
  · exact Or.inl ⟨hDue, (if_pos hDue).trans (if_pos hLow.2)⟩
  · exact Or.inr ⟨hDue, if_neg hDue⟩

/-- Every fire poll of a run is seen if and only if each comes when the limiter lets a report
through or the alarm is still up from an earlier one. -/
theorem fire_seen_iff {g : Gateway} (h : WiredListening g) (polls : List PollReads) :
    Along hmiStep (fun g reads => FireLow reads → FireSeen (hmiStep g reads)) g polls ↔
      Along hmiStep (fun g reads => FireLow reads → AlarmDue g reads ∨ FireSeen g) g polls := by
  refine along_congr (J := WiredListening) (fun _ reads hListen => hListen.hmiStep reads) ?_ h
  intro s reads hListen
  refine forall_congr' fun hLow => ?_
  rw [fireSeen_hmiStep hListen]
  rcases pollAction_fireLow hListen hLow with ⟨hDue, hAction⟩ | ⟨hLate, hAction⟩
  · exact iff_of_true (Or.inl hAction) (Or.inl hDue)
  · rw [hAction]
    simp [hLate]

/-! A gateway that has registered a wired detector and watches its inputs. -/

def wiredTable : SensorData :=
  { SensorData.zero with
    maxDetector := 1
    deviceActivated := Function.update SensorData.zero.deviceActivated 1 1
    inputChannel := 1 }

def wiredGateway : Gateway := run step (boot (some wiredTable) false fun _ => 0) startListening

/-- A pass in which all looks at a pin and all looks at the clock see the same. -/
def steadyPoll (fire fault : Bool) (time : Int) : PollReads where
  registerFire := fire
  registerFault := fault
  releaseFire := fire
  releaseFault := fault
  normalFire := fire
  normalFault := fault
  alarmFire := fire
  errorFault := fault
  checkTime := time
  stampTime := time
  addTime := time

theorem wiredGateway_listening : WiredListening wiredGateway :=
  ⟨by decide, by decide, by decide⟩

theorem fire_seen_twice :
    Along hmiStep (fun g reads => FireLow reads → FireSeen (hmiStep g reads)) wiredGateway
      [steadyPoll false false 20000000, steadyPoll false false 21000000] :=
  (fire_seen_iff wiredGateway_listening _).mpr (by decide)

/-- The fault contact opens at 20 s of uptime, the fire contact closes at 25 s: the limiter of
the fault report still holds. -/
theorem fire_missed_after_fault : WiredListening wiredGateway ∧
    ¬ Along hmiStep (fun g reads => FireLow reads → FireSeen (hmiStep g reads)) wiredGateway
      [steadyPoll true true 20000000, steadyPoll false false 25000000] :=
  ⟨wiredGateway_listening, by decide⟩

/-! ## The spacing of the reports -/

/-- A run of the gateway with the last time the HMI task looked at the clock and the times
stored for its reports, latest first. -/
structure WiredWatch where
  gateway : Gateway
  clock : Int
  normalPosts : List Int
  alarmPosts : List Int

namespace WiredWatch

def start (g : Gateway) : WiredWatch where
  gateway := g
  clock := 0
  normalPosts := []
  alarmPosts := []

def step (s : WiredWatch) (event : Event) : WiredWatch :=
  match event with
  | .hmi reads =>
    { gateway := hmiProcess reads s.gateway
      clock := reads.addTime
      normalPosts :=
        if pollAction reads s.gateway = some (.report .T) then reads.stampTime :: s.normalPosts
        else s.normalPosts
      alarmPosts :=
        if pollAction reads s.gateway = some (.report .F) ∨
            pollAction reads s.gateway = some (.report .E) then
          reads.stampTime :: s.alarmPosts
        else s.alarmPosts }
  | _ => { s with gateway := FcomGateway.step s.gateway event }

end WiredWatch

/-- The clock of the HMI task does not run backwards. -/
def ClockOrdered (s : WiredWatch) : Event → Prop
  | .hmi reads =>
    s.clock ≤ reads.checkTime ∧ reads.checkTime ≤ reads.stampTime ∧
      reads.stampTime ≤ reads.addTime
  | _ => True

/-- Each time is more than `gap` after the one before it. -/
def Spaced (gap : Int) (posts : List Int) : Prop :=
  posts.IsChain fun later earlier => gap < later - earlier

def LimiterLaw (s : WiredWatch) : Prop :=
  Spaced SEND_MESSAGE_NORMAL_TIME s.normalPosts ∧ Spaced SEND_MESSAGE_ALARM_TIME s.alarmPosts

/-- A report at `now` is far enough from the last one if that one was made at an uptime that no
longer fits into 32 bits. -/
def ApartLate (gap : Int) (posts : List Int) (now : Int) : Prop :=
  ∀ last ∈ posts.head?, 2 ^ 32 ≤ last → gap < now - last

/-- The pins and the state ask for a report of the given branch, whatever the limiter says. -/
def AsksNormal (g : Gateway) (reads : PollReads) : Prop :=
  (g.ssStateMachine = .listenSubEvent ∧ g.isStartAddDevice = false ∧
    g.sensorData.inputChannel ≠ 0) ∧ reads.normalFire = true ∧ reads.normalFault = false

def AsksAlarm (g : Gateway) (reads : PollReads) : Prop :=
  (g.ssStateMachine = .listenSubEvent ∧ g.isStartAddDevice = false ∧
    g.sensorData.inputChannel ≠ 0) ∧ ¬ (reads.normalFire = true ∧ reads.normalFault = false) ∧
    (reads.alarmFire = false ∨ reads.errorFault = true)

instance (g : Gateway) (reads : PollReads) : Decidable (AsksNormal g reads) :=
  inferInstanceAs (Decidable (_ ∧ _))

instance (g : Gateway) (reads : PollReads) : Decidable (AsksAlarm g reads) :=
  inferInstanceAs (Decidable (_ ∧ _))

instance (gap : Int) (posts : List Int) (now : Int) : Decidable (ApartLate gap posts now) :=
  inferInstanceAs (Decidable (∀ last ∈ posts.head?, _))

def LimiterSafe (s : WiredWatch) : Event → Prop
  | .hmi reads =>
    (AsksNormal s.gateway reads →
      ApartLate SEND_MESSAGE_NORMAL_TIME s.normalPosts reads.stampTime) ∧
    (AsksAlarm s.gateway reads →
      ApartLate SEND_MESSAGE_ALARM_TIME s.alarmPosts reads.stampTime)
  | _ => True

instance (s : WiredWatch) : (event : Event) → Decidable (ClockOrdered s event)
  | .hmi reads => inferInstanceAs (Decidable (s.clock ≤ reads.checkTime ∧ _ ∧ _))
  | .rf _ | .addSub _ | .stopAddSub | .removeSub _ | .updateFw | .mqttConnected
  | .mqttDisconnected | .mqttSend | .heartbeat _ _ | .networkType => .isTrue trivial

instance (s : WiredWatch) : (event : Event) → Decidable (LimiterSafe s event)
  | .hmi reads => inferInstanceAs (Decidable ((AsksNormal s.gateway reads → _) ∧ (_ → _)))
  | .rf _ | .addSub _ | .stopAddSub | .removeSub _ | .updateFw | .mqttConnected
  | .mqttDisconnected | .mqttSend | .heartbeat _ _ | .networkType => .isTrue trivial

instance (s : WiredWatch) : Decidable (LimiterLaw s) := by
  unfold LimiterLaw Spaced
  infer_instance

/-! ### The stored times -/

def Gateway.prevTimes (g : Gateway) : Int × Int :=
  (g.prevTimeMessageNormal, g.prevTimeMessageAlarm)

theorem confirmRegistration_prevTimes (g : Gateway) :
    (confirmRegistration g).prevTimes = g.prevTimes := by
  obtain ⟨_, _, _, _, hWrites⟩ := confirmRegistration_writes g
  rw [hWrites]
  rfl

theorem sensorDataHandler_prevTimes (now : Int) (dtmp : List UInt8) (g : Gateway) :
    (sensorDataHandler now dtmp g).prevTimes = g.prevTimes := by
  unfold sensorDataHandler
  split
  · have hScan : (scanBuffer dtmp g).prevTimes = g.prevTimes := by
      rw [scanBuffer_eq]
      obtain ⟨_, _, _, _, _, _, _, _, hScans⟩ := frames_scans (frames dtmp) g
      rw [hScans]
      rfl
    have hConfirm := (confirmRegistration_prevTimes (scanBuffer dtmp g)).trans hScan
    unfold sendFeedback
    split
    · exact hConfirm
    · exact hConfirm
  · rfl

/-- Only the HMI task writes the stored times. -/
theorem step_prevTimes (g : Gateway) {event : Event} (hOther : ∀ reads, event ≠ .hmi reads) :
    (step g event).prevTimes = g.prevTimes := by
  cases event with
  | hmi reads => exact absurd rfl (hOther reads)
  | rf input =>
    rcases rfHandleExtTask_cases input g with
      ⟨now, hHandle⟩ | ⟨_, ⟨mode, hPost⟩ | ⟨mode, count, status, hMove⟩⟩
    · rw [step, hHandle]
      exact sensorDataHandler_prevTimes now _ g
    · rw [step, hPost]
      rfl
    · rw [step, hMove]
      rfl
  | removeSub node =>
    rcases removeSubDevices_cases node g with ⟨_, hErase⟩ | ⟨_, hSame⟩
    · rw [step, hErase]
      rfl
    · rw [step, hSame]
  | mqttConnected =>
    obtain ⟨_, _, _, hConnected⟩ := mqttConnected_eq g
    rw [step, hConnected]
    rfl
  | mqttSend =>
    rcases mqttSendTask_cases g with hSame | ⟨event, rest, _, hHandle⟩
    · rw [step, hSame]
    · obtain ⟨_, _, _, _, hSend, _⟩ := handleDataEvent_sends event { g with dataProcess := rest }
      rw [step, hHandle, hSend]
      rfl
  | heartbeat now id =>
    simp only [step, checkHeartbeat]
    split
    · split
      · rfl
      · rfl
    · rfl
  | addSub _ | stopAddSub | updateFw | mqttDisconnected | networkType => rfl

theorem hmiProcess_prevTimes (reads : PollReads) (g : Gateway) :
    (hmiProcess reads g).prevTimeMessageNormal =
      (if pollAction reads g = some (.report .T) then toUint32 reads.stampTime
      else g.prevTimeMessageNormal) ∧
    (hmiProcess reads g).prevTimeMessageAlarm =
      (if pollAction reads g = some (.report .F) ∨ pollAction reads g = some (.report .E) then
        toUint32 reads.stampTime
      else g.prevTimeMessageAlarm) := by
  rcases hmiProcess_cases reads g with
    ⟨hAction, b, hIdle⟩ | ⟨hAction, hRegister⟩ |
    ⟨_, ⟨hAction, hReport⟩ | ⟨hAction, hReport⟩ | ⟨hAction, hReport⟩⟩
  · rw [hIdle, hAction]
    exact ⟨rfl, rfl⟩
  · rw [hRegister, hAction, wiredRegister]
    split
    · exact ⟨rfl, rfl⟩
    · exact ⟨rfl, rfl⟩
  · rw [hReport, hAction, wiredT, updateRelayAlarmState_eq]
    exact ⟨rfl, rfl⟩
  · rw [hReport, hAction, wiredF, updateRelayAlarmState_eq]
    exact ⟨rfl, rfl⟩
  · rw [hReport, hAction, wiredE]
    exact ⟨rfl, rfl⟩

theorem pollAction_asks (reads : PollReads) (g : Gateway) :
    (pollAction reads g = some (.report .T) ↔ AsksNormal g reads ∧
      SEND_MESSAGE_NORMAL_TIME < reads.checkTime - g.prevTimeMessageNormal) ∧
    (pollAction reads g = some (.report .F) ∨ pollAction reads g = some (.report .E) ↔
      AsksAlarm g reads ∧
        SEND_MESSAGE_ALARM_TIME < reads.checkTime - g.prevTimeMessageAlarm) := by
  unfold pollAction AsksNormal AsksAlarm
  cases hMode : g.ssStateMachine with
  | listenSubEvent =>
    dsimp only
    unfold listenAction
    split
    · rename_i hOff
      grind
    · rename_i hOn
      grind
  | registerSub =>
    dsimp only
    unfold registerAction
    split <;> simp
  | initCmd | findingSub | waitAddSub | configAddMode | configListenMode | finishedAddSub =>
    simp

/-! ### One limiter -/

/-- The stored time is what 32 bits keep of the last report. -/
structure Remembers (clock prev : Int) (posts : List Int) : Prop where
  stored : ∀ last ∈ posts.head?, prev = toUint32 last
  past : ∀ last ∈ posts.head?, 0 ≤ last ∧ last ≤ clock

theorem Remembers.later {clock clock' prev : Int} {posts : List Int}
    (h : Remembers clock prev posts) (hClock : clock ≤ clock') : Remembers clock' prev posts := by
  refine ⟨h.stored, fun last hLast => ?_⟩
  obtain ⟨hLow, hHigh⟩ := h.past last hLast
  exact ⟨hLow, by omega⟩

theorem Remembers.report {clock stamp : Int} {posts : List Int} (hLow : 0 ≤ stamp)
    (hHigh : stamp ≤ clock) : Remembers clock (toUint32 stamp) (stamp :: posts) := by
  constructor
  · rintro last ⟨⟩
    rfl
  · rintro last ⟨⟩
    exact ⟨hLow, hHigh⟩

theorem spaced_cons {gap now : Int} {posts : List Int} :
    Spaced gap (now :: posts) ↔ (∀ last ∈ posts.head?, gap < now - last) ∧ Spaced gap posts :=
  List.isChain_cons

/-- Below 2 ^ 32 the limiter compares with the last report itself. From there on the stored time
is at least 2 ^ 32 too small, and every report passes. -/
theorem spaced_report_iff {clock prev check stamp gap : Int} {posts : List Int}
    (hRemembers : Remembers clock prev posts) (hGap : gap < 2 ^ 32)
    (hCheck : clock ≤ check) (hStamp : check ≤ stamp) (hSpaced : Spaced gap posts)
    (asks : Prop) [Decidable asks] :
    Spaced gap (if asks ∧ gap < check - prev then stamp :: posts else posts) ↔
      (asks → ApartLate gap posts stamp) := by
  constructor
  · intro hNext hAsks last hLast hLate
    have hStored := hRemembers.stored last hLast
    have hPast := hRemembers.past last hLast
    have hPasses : gap < check - prev := by
      rw [hStored, toUint32]
      omega
    rw [if_pos ⟨hAsks, hPasses⟩, spaced_cons] at hNext
    exact hNext.1 last hLast
  · intro hApart
    split
    · rename_i hReport
      refine spaced_cons.mpr ⟨fun last hLast => ?_, hSpaced⟩
      have hStored := hRemembers.stored last hLast
      have hPast := hRemembers.past last hLast
      rcases Int.lt_or_le last (2 ^ 32) with hEarly | hLate
      · have hPassed := hReport.2
        rw [hStored, toUint32] at hPassed
        omega
      · exact hApart hReport.1 last hLast hLate
    · exact hSpaced

/-! ### Runs -/

structure LimiterInv (s : WiredWatch) : Prop where
  clock : 0 ≤ s.clock
  normal : Remembers s.clock s.gateway.prevTimeMessageNormal s.normalPosts
  alarm : Remembers s.clock s.gateway.prevTimeMessageAlarm s.alarmPosts

theorem LimiterInv.start (g : Gateway) : LimiterInv (.start g) :=
  ⟨Int.le_refl 0, ⟨by simp [WiredWatch.start], by simp [WiredWatch.start]⟩,
    ⟨by simp [WiredWatch.start], by simp [WiredWatch.start]⟩⟩

theorem wiredWatch_other (s : WiredWatch) {event : Event} (hOther : ∀ reads, event ≠ .hmi reads) :
    s.step event = { s with gateway := FcomGateway.step s.gateway event } := by
  cases event with
  | hmi reads => exact absurd rfl (hOther reads)
  | _ => rfl

theorem LimiterInv.step {s : WiredWatch} {event : Event} (h : LimiterInv s)
    (hOrdered : ClockOrdered s event) : LimiterInv (s.step event) := by
  obtain ⟨hClock, hNormal, hAlarm⟩ := h
  by_cases hHmi : ∃ reads, event = .hmi reads
  · obtain ⟨reads, rfl⟩ := hHmi
    obtain ⟨hCheck, hStamp, hAdd⟩ := hOrdered
    obtain ⟨hPrevNormal, hPrevAlarm⟩ := hmiProcess_prevTimes reads s.gateway
    have hLater : s.clock ≤ reads.addTime := by omega
    have hPositive : 0 ≤ reads.stampTime := by omega
    refine ⟨by simp only [WiredWatch.step]; omega, ?_, ?_⟩
    · simp only [WiredWatch.step, hPrevNormal]
      split
      · exact Remembers.report hPositive hAdd
      · exact hNormal.later hLater
    · simp only [WiredWatch.step, hPrevAlarm]
      split
      · exact Remembers.report hPositive hAdd
      · exact hAlarm.later hLater
  · have hOther : ∀ reads, event ≠ .hmi reads := fun reads hEvent => hHmi ⟨reads, hEvent⟩
    obtain ⟨hPrevNormal, hPrevAlarm⟩ := Prod.mk.inj (step_prevTimes s.gateway hOther)
    rw [wiredWatch_other s hOther]
    refine ⟨hClock, ?_, ?_⟩
    · dsimp only
      rw [hPrevNormal]
      exact hNormal
    · dsimp only
      rw [hPrevAlarm]
      exact hAlarm

theorem limiterLaw_step_iff {s : WiredWatch} {event : Event} (h : LimiterInv s)
    (hOrdered : ClockOrdered s event) (hLaw : LimiterLaw s) :
    LimiterLaw (s.step event) ↔ LimiterSafe s event := by
  by_cases hHmi : ∃ reads, event = .hmi reads
  · obtain ⟨reads, rfl⟩ := hHmi
    obtain ⟨hCheck, hStamp, _⟩ := hOrdered
    obtain ⟨hNormal, hAlarm⟩ := pollAction_asks reads s.gateway
    have hLimits : SEND_MESSAGE_NORMAL_TIME < 2 ^ 32 ∧ SEND_MESSAGE_ALARM_TIME < 2 ^ 32 := by
      decide
    simp only [LimiterLaw, LimiterSafe, WiredWatch.step, hNormal, hAlarm]
    exact and_congr
      (spaced_report_iff h.normal hLimits.1 hCheck hStamp hLaw.1 _)
      (spaced_report_iff h.alarm hLimits.2 hCheck hStamp hLaw.2 _)
  · have hOther : ∀ reads, event ≠ .hmi reads := fun reads hEvent => hHmi ⟨reads, hEvent⟩
    rw [wiredWatch_other s hOther]
    refine iff_of_true hLaw ?_
    cases event with
    | hmi reads => exact absurd rfl (hOther reads)
    | _ => trivial

/-- The reports of every run are spaced as meant if and only if none is asked for too soon
after one that was made at an uptime of 2 ^ 32 microseconds or more. -/
theorem limiterLaw_always_iff (g : Gateway) (events : List Event)
    (hClock : Along WiredWatch.step ClockOrdered (.start g) events) :
    Always WiredWatch.step LimiterLaw (.start g) events ↔
      Along WiredWatch.step LimiterSafe (.start g) events :=
  always_iff_along_of (J := LimiterInv) (fun _ _ h hOrdered => h.step hOrdered)
    (fun _ _ h hOrdered hLaw => limiterLaw_step_iff h hOrdered hLaw) (LimiterInv.start g)
    ⟨List.isChain_nil, List.isChain_nil⟩ hClock

theorem limiterLaw_first_hour :
    Always WiredWatch.step LimiterLaw (.start wiredGateway)
      [.hmi (steadyPoll true false 6000000), .hmi (steadyPoll true false 9000000),
        .hmi (steadyPoll false false 12000000), .hmi (steadyPoll true false 13000000)] :=
  (limiterLaw_always_iff wiredGateway _ (by decide)).mpr (by decide)

/-- At an uptime of 2 ^ 32 microseconds two passes one microsecond apart both report. -/
theorem reports_repeated_late :
    Along WiredWatch.step ClockOrdered (.start (boot (some wiredTable) false fun _ => 0))
      (startListening ++ [.hmi (steadyPoll true false 4294967296),
        .hmi (steadyPoll true false 4294967297)]) ∧
    ¬ Always WiredWatch.step LimiterLaw (.start (boot (some wiredTable) false fun _ => 0))
      (startListening ++ [.hmi (steadyPoll true false 4294967296),
        .hmi (steadyPoll true false 4294967297)]) := by
  decide

end FcomGateway
