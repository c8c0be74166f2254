import FcomGateway.Library.Ledger
import FcomGateway.System

/-! # Registrations and resets

A registration lives in three places: the table in RAM, the packet for the server and the file
that the next boot reads. A reset keeps the file only. What the server has been told survives when
the file has it before the packet goes out.
-/

namespace FcomGateway

open EventTrace Ledger

/-! ## The gateway under resets -/

inductive PowerEvent
  | run (event : Event)
  | reset (userReset : Bool) (clock : Nat → Int)

/-- The table that the next boot works with. -/
def restored (g : Gateway) : SensorData := g.sensorDataFile.getD .zero

def powerStep (g : Gateway) : PowerEvent → Gateway
  | .run event => step g event
  | .reset userReset clock => { boot g.sensorDataFile userReset clock with log := g.log }

def Observation.registered? : Observation → Option Nat
  | .published (.fbSsProcess ipNode) => some ipNode
  | _ => none

def Observation.removed? : Observation → Option Nat
  | .erased slot => some slot
  | _ => none

/-- A detector that the server was told about and that was not removed since is registered in
the table of the next boot. -/
def RestartLaw (g : Gateway) : Prop :=
  ∀ d, Outstanding Observation.registered? Observation.removed? g.log d →
    (restored g).deviceActivated d = 1

theorem restartLaw_iff_pending {g : Gateway} : RestartLaw g ↔
    ∀ d ∈ pending Observation.registered? Observation.removed? g.log,
      (restored g).deviceActivated d = 1 :=
  forall_congr' fun d => by rw [mem_pending]

instance (g : Gateway) : Decidable (RestartLaw g) := decidable_of_iff _ restartLaw_iff_pending.symm

/-- The send task takes a registration only when the saved table has the detector that the packet
will name. -/
def RestartSafe (g : Gateway) : PowerEvent → Prop
  | .run .mqttSend => g.gatewayData.mqttStatus = true →
      g.dataProcess.head? = some .ssRegisterServer →
        (restored g).deviceActivated g.sensorData.curDetector = 1
  | _ => True

/-! ## What the file has, the RAM has -/

def Restorable (g : Gateway) : Prop :=
  ∀ i, (restored g).deviceActivated i = 1 → g.sensorData.deviceActivated i = 1

/-- The file keeps its registrations and goes on having no more than the RAM, and no registration
was sent. -/
structure Keeps (g next : Gateway) : Prop where
  restorable : Restorable g → Restorable next
  restored : Restorable g → ∀ i, (restored g).deviceActivated i = 1 →
    (restored next).deviceActivated i = 1
  log : ∃ news, next.log = g.log ++ news ∧ ∀ e ∈ news, e.registered? = none

namespace Keeps

variable {g middle next : Gateway}

theorem of_file (hFile : next.sensorDataFile = g.sensorDataFile)
    (hActive : ∀ i, g.sensorData.deviceActivated i = 1 → next.sensorData.deviceActivated i = 1)
    (hLog : ∃ news, next.log = g.log ++ news ∧ ∀ e ∈ news, e.registered? = none) :
    Keeps g next := by
  have hTable : FcomGateway.restored next = FcomGateway.restored g := by
    rw [FcomGateway.restored, FcomGateway.restored, hFile]
  refine ⟨fun hBefore i hOne => ?_, fun _ i hOne => ?_, hLog⟩
  · rw [hTable] at hOne
    exact hActive i (hBefore i hOne)
  · rw [hTable]
    exact hOne

theorem of_log (hFile : next.sensorDataFile = g.sensorDataFile)
    (hActive : next.sensorData.deviceActivated = g.sensorData.deviceActivated)
    (hLog : ∃ news, next.log = g.log ++ news ∧ ∀ e ∈ news, e.registered? = none) :
    Keeps g next :=
  of_file hFile (fun i hOne => by rw [hActive, hOne]) hLog

theorem of_eq (hFile : next.sensorDataFile = g.sensorDataFile)
    (hActive : next.sensorData.deviceActivated = g.sensorData.deviceActivated)
    (hLog : next.log = g.log) : Keeps g next :=
  of_log hFile hActive ⟨[], by rw [hLog, List.append_nil], nofun⟩

theorem of_entry {e : Observation} (he : e.registered? = none)
    (hFile : next.sensorDataFile = g.sensorDataFile)
    (hActive : next.sensorData.deviceActivated = g.sensorData.deviceActivated)
    (hLog : next.log = g.log ++ [e]) : Keeps g next :=
  of_log hFile hActive ⟨[e], hLog, by simpa using he⟩

theorem refl (g : Gateway) : Keeps g g := of_eq rfl rfl rfl

theorem trans (h : Keeps g middle) (h' : Keeps middle next) : Keeps g next := by
  obtain ⟨news, hLog, hNews⟩ := h.log
  obtain ⟨news', hLog', hNews'⟩ := h'.log
  refine ⟨fun hBefore => h'.restorable (h.restorable hBefore),
    fun hBefore i hOne => h'.restored (h.restorable hBefore) i (h.restored hBefore i hOne),
    news ++ news', by rw [hLog', hLog, List.append_assoc], ?_⟩
  intro e he
  exact (List.mem_append.mp he).elim (hNews e) (hNews' e)

theorem save (g : Gateway) : Keeps g (flashSaveSensorData g) :=
  ⟨fun _ _ hOne => hOne, fun hBefore => hBefore, [], (List.append_nil _).symm, nofun⟩

theorem foldl {f : Gateway → Nat → Gateway} (hf : ∀ g c, Keeps g (f g c)) (cs : List Nat)
    (g : Gateway) : Keeps g (cs.foldl f g) := by
  induction cs generalizing g with
  | nil => exact refl g
  | cons c cs ih => exact (hf g c).trans (ih (f g c))

theorem restartLaw (h : Keeps g next) (hBefore : Restorable g) (hLaw : RestartLaw g) :
    RestartLaw next := by
  intro d hOut
  obtain ⟨news, hLog, hNews⟩ := h.log
  rw [hLog] at hOut
  rcases hOut.of_append with hOld | ⟨e, he, hOpen⟩
  · exact h.restored hBefore d (hLaw d hOld)
  · rw [hNews e he] at hOpen
    cases hOpen

end Keeps

/-! ## The tasks -/

theorem handleDataEvent_keeps {event : DataEvent} (hEvent : event ≠ .ssRegisterServer)
    (g : Gateway) : Keeps g (handleDataEvent event g) := by
  have sent : ∀ (g : Gateway) c, Keeps g (flashSaveSensorData (publishSensorData c g)) := by
    intro g c
    have hPublish : Keeps g (publishSensorData c g) := Keeps.of_entry rfl rfl rfl rfl
    exact hPublish.trans (Keeps.save _)
  cases event with
  | gwResetSsState =>
    refine Keeps.foldl (fun g c => ?_) _ g
    unfold resetDetector
    split
    · have hReset : Keeps g { g with sensorData := { g.sensorData with
          dtorSensorState := Function.update g.sensorData.dtorSensorState c .normalSt } } :=
        Keeps.of_eq rfl rfl rfl
      exact hReset.trans (sent _ c)
    · exact Keeps.refl g
  | ssUploadDb =>
    refine Keeps.foldl (fun g c => ?_) _ g
    unfold uploadDetector
    split
    · exact sent g c
    · exact Keeps.refl g
  | ssFeedbackFlag => exact sent g _
  | gwFeedbackFlag | jobRequestedFeedbackFlag | ssErrorFlag =>
    exact Keeps.of_entry rfl rfl rfl rfl
  | ssRegisterServer => exact absurd rfl hEvent
  | jobRequestedOta | gwAddSubDeviceFlag => exact Keeps.of_eq rfl rfl rfl

theorem sensorDataHandler_keeps {g : Gateway} (hIdle : g.isSensorFeedback = false) (now : Int)
    (dtmp : List UInt8) : Keeps g (sensorDataHandler now dtmp g) := by
  obtain ⟨news, hLog, hNews⟩ := sensorDataHandler_log now dtmp g
  have hQuiet : news.filterMap Observation.registered? = [] := by
    rw [hNews Observation.registered? ⟨fun _ => rfl, fun _ _ => rfl⟩, List.filterMap_eq_nil_iff]
    rintro (_ | ⟨letter, add⟩) _ <;> rfl
  refine Keeps.of_file (sensorDataHandler_sensorDataFile now dtmp g) (fun i hOne => ?_)
    ⟨news, hLog, List.filterMap_eq_nil_iff.mp hQuiet⟩
  rw [sensorDataHandler_deviceActivated now dtmp hIdle]
  cases registeredSlot g (frames dtmp) with
  | none => exact hOne
  | some c => exact activated_mark hOne c

theorem hmiProcess_keeps (g : Gateway) (reads : PollReads) : Keeps g (hmiProcess reads g) := by
  rcases hmiProcess_cases reads g with
    ⟨_, b, hSame⟩ | ⟨_, hRegister⟩ | ⟨_, ⟨_, hStep⟩ | ⟨_, hStep⟩ | ⟨_, hStep⟩⟩
  · rw [hSame]
    exact Keeps.of_eq rfl rfl rfl
  · rw [hRegister, wiredRegister]
    split
    · rename_i c _
      exact Keeps.of_file rfl (fun i hOne => activated_mark hOne c)
        ⟨[.wiredSlot c], rfl, by simp [Observation.registered?]⟩
    · exact Keeps.of_eq rfl rfl rfl
  · rw [hStep, wiredT, updateRelayAlarmState_eq]
    exact Keeps.of_entry (e := .wiredReport .T g.sensorData.inputChannel) rfl rfl rfl rfl
  · rw [hStep, wiredF, updateRelayAlarmState_eq]
    exact Keeps.of_entry (e := .wiredReport .F g.sensorData.inputChannel) rfl rfl rfl rfl
  · rw [hStep]
    exact Keeps.of_entry (e := .wiredReport .E g.sensorData.inputChannel) rfl rfl rfl rfl

/-- Every event but a removal and a registration taken by the send task keeps what was saved. -/
theorem step_keeps {g : Gateway} (hIdle : g.isSensorFeedback = false) {event : Event}
    (hRemove : ∀ node, event ≠ .removeSub node)
    (hSend : event = .mqttSend → g.gatewayData.mqttStatus = true →
      g.dataProcess.head? ≠ some .ssRegisterServer) : Keeps g (step g event) := by
  cases event with
  | rf input =>
    rcases rfHandleExtTask_cases input g with
      ⟨now, hHandle⟩ | ⟨hNone, ⟨mode, hPost⟩ | ⟨mode, count, status, hMove⟩⟩
    · rw [step, hHandle]
      exact sensorDataHandler_keeps hIdle now _
    · rw [step, hPost]
      exact Keeps.of_eq rfl rfl rfl
    · rw [step, hMove]
      exact Keeps.of_eq rfl rfl rfl
  | hmi reads => exact hmiProcess_keeps g reads
  | addSub code | stopAddSub | updateFw | networkType | mqttDisconnected =>
    exact Keeps.of_eq rfl rfl rfl
  | removeSub node => exact absurd rfl (hRemove node)
  | mqttConnected =>
    obtain ⟨_, _, _, hConnected⟩ := mqttConnected_eq g
    rw [step, hConnected]
    exact Keeps.of_eq rfl rfl rfl
  | mqttSend =>
    rw [step, mqttSendTask]
    split
    · rename_i hStatus
      split
      · rename_i event rest hQueue
        have hOther : event ≠ .ssRegisterServer := by
          rintro rfl
          exact hSend rfl hStatus (by rw [hQueue]; rfl)
        have hTaken : Keeps g { g with dataProcess := rest } := Keeps.of_eq rfl rfl rfl
        exact hTaken.trans (handleDataEvent_keeps hOther _)
      · exact Keeps.refl g
    · exact Keeps.refl g
  | heartbeat now id =>
    simp only [step, checkHeartbeat]
    split
    · split
      · exact Keeps.of_eq rfl rfl rfl
      · exact Keeps.refl g
    · exact Keeps.refl g

/-! ## Removals and registrations -/

theorem removal_restorable {g : Gateway} (hBefore : Restorable g) (node : Int) :
    Restorable (step g (.removeSub node)) := by
  rcases removeSubDevices_cases node g with ⟨_, hErase⟩ | ⟨_, hSame⟩
  · rw [step, hErase]
    exact fun i hOne => hOne
  · rw [step, hSame]
    exact hBefore

/-- A removal saves the table without the detector that it closes. -/
theorem removal_restartLaw {g : Gateway} (hBefore : Restorable g) (hLaw : RestartLaw g)
    (node : Int) : RestartLaw (step g (.removeSub node)) := by
  rcases removeSubDevices_cases node g with ⟨_, hErase⟩ | ⟨_, hSame⟩
  · rw [step, hErase]
    intro d hOut
    rcases outstanding_concat.mp hOut with hOpen | ⟨hOld, hOther⟩
    · cases hOpen
    · have hd : d ≠ node.toNat := by
        rintro rfl
        exact hOther rfl
      rw [← hBefore d (hLaw d hOld)]
      exact Function.update_of_ne hd 0 _
  · rw [step, hSame]
    exact hLaw

/-- The send task is about to take a registration. -/
def TakesRegistration (g : Gateway) : Prop :=
  g.gatewayData.mqttStatus = true ∧ g.dataProcess.head? = some .ssRegisterServer

theorem registration_step {g : Gateway} (h : TakesRegistration g) : ∃ rest,
    step g .mqttSend =
      publish (.fbSsProcess g.sensorData.curDetector) { g with dataProcess := rest } := by
  obtain ⟨hStatus, hHead⟩ := h
  obtain ⟨rest, hQueue⟩ := List.head?_eq_some_iff.mp hHead
  refine ⟨rest, ?_⟩
  rw [step, mqttSendTask, if_pos hStatus, hQueue]
  rfl

theorem registration_restartLaw {g : Gateway} (hLaw : RestartLaw g) (h : TakesRegistration g) :
    RestartLaw (step g .mqttSend) ↔
      (restored g).deviceActivated g.sensorData.curDetector = 1 := by
  obtain ⟨rest, hStep⟩ := registration_step h
  rw [hStep]
  constructor
  · intro hAfter
    exact hAfter g.sensorData.curDetector (outstanding_concat.mpr (Or.inl rfl))
  · intro hSaved d hOut
    rcases outstanding_concat.mp hOut with hOpen | ⟨hOld, _⟩
    · cases hOpen
      exact hSaved
    · exact hLaw d hOld

/-! ## Runs -/

theorem step_restorable {g : Gateway} (hIdle : g.isSensorFeedback = false)
    (hBefore : Restorable g) (event : Event) : Restorable (step g event) := by
  by_cases hRemove : ∃ node, event = .removeSub node
  · obtain ⟨node, rfl⟩ := hRemove
    exact removal_restorable hBefore node
  by_cases hSend : event = .mqttSend ∧ TakesRegistration g
  · obtain ⟨rfl, hTakes⟩ := hSend
    obtain ⟨rest, hStep⟩ := registration_step hTakes
    rw [hStep]
    exact hBefore
  · exact (step_keeps hIdle (fun node hEvent => hRemove ⟨node, hEvent⟩)
      fun hEvent hStatus hHead => hSend ⟨hEvent, hStatus, hHead⟩).restorable hBefore

theorem restartLaw_step_iff {g : Gateway} (hIdle : g.isSensorFeedback = false)
    (hBefore : Restorable g) (hLaw : RestartLaw g) (event : PowerEvent) :
    RestartLaw (powerStep g event) ↔ RestartSafe g event := by
  cases event with
  | reset userReset clock => exact iff_of_true hLaw trivial
  | run event =>
    by_cases hRemove : ∃ node, event = .removeSub node
    · obtain ⟨node, rfl⟩ := hRemove
      exact iff_of_true (removal_restartLaw hBefore hLaw node) trivial
    by_cases hSend : event = .mqttSend ∧ TakesRegistration g
    · obtain ⟨rfl, hTakes⟩ := hSend
      refine (registration_restartLaw hLaw hTakes).trans ?_
      rw [RestartSafe, forall_prop_of_true hTakes.1, forall_prop_of_true hTakes.2]
    · have hKeeps : Keeps g (step g event) :=
        step_keeps hIdle (fun node hEvent => hRemove ⟨node, hEvent⟩)
          fun hEvent hStatus hHead => hSend ⟨hEvent, hStatus, hHead⟩
      refine iff_of_true (hKeeps.restartLaw hBefore hLaw) ?_
      cases event with
      | mqttSend => exact fun hStatus hHead => absurd ⟨rfl, hStatus, hHead⟩ hSend
      | _ => trivial

/-- Every detector that the server was told about survives every reset exactly when each
registration was saved before the send task took it. -/
theorem restart_always_iff (saved : Option SensorData) (userReset : Bool) (clock : Nat → Int)
    (events : List PowerEvent) : Always powerStep RestartLaw (boot saved userReset clock) events ↔
      Along powerStep RestartSafe (boot saved userReset clock) events := by
  refine always_iff_along (J := fun g : Gateway => g.isSensorFeedback = false ∧ Restorable g)
    ?_ (fun g event h hLaw => restartLaw_step_iff h.1 h.2 hLaw event) ⟨rfl, fun _ hOne => hOne⟩
    (fun d hOut => absurd hOut (not_outstanding_nil d))
  rintro g (event | ⟨userReset, clock⟩) ⟨hIdle, hBefore⟩
  · exact ⟨step_isSensorFeedback hIdle event, step_restorable hIdle hBefore event⟩
  · exact ⟨rfl, fun _ hOne => hOne⟩

/-- Detector 1 registers, the server is told, and a reset restores the zero table. -/
theorem registration_lost : ¬ ∀ (saved : Option SensorData) (events : List PowerEvent),
    Always powerStep RestartLaw (boot saved false fun _ => 0) events := by
  intro h
  have hRun := (h none ((startListening ++ [uartData requestBytes, .rf ⟨false, none⟩,
    uartData (Report.F.bytes 1), .mqttConnected, .mqttSend]).map .run ++
      [.reset false fun _ => 0])).last
  revert hRun
  decide

end FcomGateway
