import FcomGateway.Library.Ledger
import FcomGateway.System

/-! # Fire reports and their packets

A fire report is answered by a sensor packet about its detector. The event in the queue does not
say which detector it is about, so a report is safe as long as `curDetector` stays with it until
the packet is built, and as long as the queue has taken the event.
-/

namespace FcomGateway

open EventTrace Ledger

def Observation.fire? : Observation → Option Nat
  | .report .F add => some add
  | .wiredReport .F add => some add
  | _ => none

def Observation.packet? : Observation → Option Nat
  | .published (.sensorData subId _ _) => some subId
  | _ => none

/-- Whenever the queue is empty and MQTT is connected, every accepted fire report has been
followed by a published packet about its detector. -/
def BacklogLaw (g : Gateway) : Prop :=
  g.dataProcess = [] → g.gatewayData.mqttStatus = true →
    Answered Observation.fire? Observation.packet? g.log

/-- The detectors with a fire report that no packet has followed. -/
def unpublished (g : Gateway) : List Nat := pending Observation.fire? Observation.packet? g.log

instance (g : Gateway) : Decidable (BacklogLaw g) :=
  decidable_of_iff (g.dataProcess = [] → g.gatewayData.mqttStatus = true → unpublished g = []) <|
    forall_congr' fun _ => forall_congr' fun _ => answered_iff_pending.symm

/-! ## What an event brings -/

def fires (g : Gateway) : Event → List Nat
  | .rf input => (frames (received input g)).filterMap (Frame.view? Observation.fire?)
  | .hmi reads =>
    if pollAction reads g = some (.report .F) then [g.sensorData.inputChannel] else []
  | _ => []

def heartbeatExpired (now : Int) (id : Nat) (g : Gateway) : Bool :=
  (g.heartbeat.find? fun node => node.id = id).any fun checker =>
    now - checker.timestamp ≥ HEART_BEAT_TIME

/-- The detector that the event writes to `curDetector`. -/
def overwrites (g : Gateway) : Event → Option Nat
  | .rf input => lastAdd (frames (received input g))
  | .hmi reads =>
    match pollAction reads g with
    | some .register => freeSlot g.sensorData
    | some (.report _) => some g.sensorData.inputChannel
    | none => none
  | .removeSub node =>
    if Removable node g then some (g.sensorData.erase node.toNat).curDetector else none
  | .heartbeat now id => if heartbeatExpired now id g then some id else none
  | _ => none

/-- The queue has room for the `SS_FEEDBACK_FLAG` of the event, in the RF handler after the
`SS_REGISTER_SERVER` of the same call. -/
def RoomForFeedback (g : Gateway) : Event → Prop
  | .rf input =>
    g.dataProcess.length + (if Registers g (frames (received input g)) then 1 else 0) <
      DATA_PROCESS_LENGTH
  | _ => g.dataProcess.length < DATA_PROCESS_LENGTH

instance (g : Gateway) (event : Event) : Decidable (RoomForFeedback g event) := by
  unfold RoomForFeedback
  split <;> infer_instance

/-- The event does not move `curDetector` away from an unpublished fire report, and the fire
reports it accepts have an event in the queue. -/
structure BacklogSafe (g : Gateway) (event : Event) : Prop where
  current : ∀ d ∈ overwrites g event, ∀ f ∈ fires g event ++ unpublished g, f = d
  posted : fires g event ≠ [] → .ssFeedbackFlag ∈ g.dataProcess ∨ RoomForFeedback g event

instance (g : Gateway) (event : Event) : Decidable (BacklogSafe g event) :=
  decidable_of_iff (_ ∧ _) ⟨fun h => ⟨h.1, h.2⟩, fun h => ⟨h.1, h.2⟩⟩

/-! ## The invariant -/

/-- All unpublished fire reports are of `curDetector`, and the queue holds their event. -/
structure BacklogInv (g : Gateway) : Prop where
  idle : g.isSensorFeedback = false
  current : ∀ f ∈ unpublished g, f = g.sensorData.curDetector
  queued : unpublished g ≠ [] → .ssFeedbackFlag ∈ g.dataProcess

theorem BacklogInv.law {g : Gateway} (h : BacklogInv g) : BacklogLaw g := by
  intro hEmpty _
  rw [answered_iff_pending]
  by_contra hSome
  have hQueued := h.queued hSome
  rw [hEmpty] at hQueued
  cases hQueued

/-- An event that only adds to the log and to the queue keeps the invariant when it is safe. -/
theorem BacklogInv.produce {g next : Gateway} (h : BacklogInv g) {event : Event}
    (hSafe : BacklogSafe g event) (hIdle : next.isSensorFeedback = false)
    (hLog : ∃ news, next.log = g.log ++ news ∧
      ∀ e ∈ news, ∀ f, e.fire? = some f → f ∈ fires g event)
    (hCur : next.sensorData.curDetector = (overwrites g event).getD g.sensorData.curDetector)
    (hFires : fires g event ≠ [] → overwrites g event ≠ none)
    (hKeep : .ssFeedbackFlag ∈ g.dataProcess → .ssFeedbackFlag ∈ next.dataProcess)
    (hPost : fires g event ≠ [] → RoomForFeedback g event →
      .ssFeedbackFlag ∈ next.dataProcess) : BacklogInv next := by
  obtain ⟨news, hNews, hFire⟩ := hLog
  have hMem : ∀ f ∈ unpublished next, f ∈ fires g event ++ unpublished g := by
    intro f hf
    have hOut := mem_pending.mp hf
    rw [hNews] at hOut
    rcases hOut.of_append with hBefore | ⟨e, he, hOpen⟩
    · exact List.mem_append_right _ (mem_pending.mpr hBefore)
    · exact List.mem_append_left _ (hFire e he f hOpen)
  refine ⟨hIdle, fun f hf => ?_, fun hSome => ?_⟩
  · rw [hCur]
    cases hOver : overwrites g event with
    | some d => exact hSafe.current d hOver f (hMem f hf)
    | none =>
      rcases List.mem_append.mp (hMem f hf) with hNew | hOld
      · exact absurd hOver (hFires (List.ne_nil_of_mem hNew))
      · exact h.current f hOld
  · obtain ⟨f, hf⟩ := List.exists_mem_of_ne_nil _ hSome
    rcases List.mem_append.mp (hMem f hf) with hNew | hOld
    · have hNonempty := List.ne_nil_of_mem hNew
      exact (hSafe.posted hNonempty).elim hKeep (hPost hNonempty)
    · exact hKeep (h.queued (List.ne_nil_of_mem hOld))

theorem BacklogInv.quiet {g next : Gateway} (h : BacklogInv g) {event : Event}
    (hSafe : BacklogSafe g event) (hFires : fires g event = [])
    (hIdle : next.isSensorFeedback = g.isSensorFeedback)
    (hLog : ∃ news, next.log = g.log ++ news ∧ ∀ e ∈ news, e.fire? = none)
    (hCur : next.sensorData.curDetector = (overwrites g event).getD g.sensorData.curDetector)
    (hKeep : ∃ more, next.dataProcess = g.dataProcess ++ more) : BacklogInv next := by
  obtain ⟨news, hNews, hNone⟩ := hLog
  obtain ⟨more, hMore⟩ := hKeep
  refine h.produce hSafe (hIdle.trans h.idle) ⟨news, hNews, fun e he f hf => ?_⟩ hCur
    (fun hSome => absurd hFires hSome) (fun hMem => ?_) fun hSome => absurd hFires hSome
  · rw [hNone e he] at hf
    cases hf
  · rw [hMore]
    exact List.mem_append_left _ hMem

/-! ## The producers -/

theorem lastAdd_of_fires {list : List Frame}
    (h : list.filterMap (Frame.view? Observation.fire?) ≠ []) : lastAdd list ≠ none := by
  obtain ⟨d, hd⟩ := List.exists_mem_of_ne_nil _ h
  obtain ⟨frame, hFrame, hView⟩ := List.mem_filterMap.mp hd
  rw [lastAdd, ne_eq, List.getLast?_eq_none_iff]
  cases frame with
  | request => cases hView
  | report letter add =>
    exact List.ne_nil_of_mem (List.mem_filterMap.mpr ⟨_, hFrame, rfl⟩)

theorem BacklogInv.rf {g : Gateway} (h : BacklogInv g) (input : RfInput)
    (hSafe : BacklogSafe g (.rf input)) : BacklogInv (step g (.rf input)) := by
  have hIdle := step_isSensorFeedback h.idle (.rf input)
  rw [step] at hIdle ⊢
  rcases rfHandleExtTask_cases input g with
    ⟨now, hHandle⟩ | ⟨hNone, hOther⟩
  · rw [hHandle] at hIdle ⊢
    obtain ⟨news, hLog, hNews⟩ := sensorDataHandler_log now (received input g) g
    have hView : ReportView Observation.fire? := ⟨fun _ => rfl, fun _ _ => rfl⟩
    have hQueue := sensorDataHandler_dataProcess now (received input g) h.idle
    refine h.produce hSafe hIdle ⟨news, hLog, fun e he f hf => ?_⟩
      (sensorDataHandler_curDetector now _ g) lastAdd_of_fires (fun hMem => ?_)
      fun hFires hRoom => ?_
    · rw [fires, ← hNews _ hView]
      exact List.mem_filterMap.mpr ⟨e, he, hf⟩
    · rw [hQueue]
      split
      · refine mem_enqueue _ ?_
        split
        · exact mem_enqueue _ hMem
        · exact hMem
      · exact hMem
    · rw [hQueue, if_pos (Option.isSome_iff_ne_none.mpr (lastAdd_of_fires hFires))]
      refine mem_enqueue_self _ ?_
      unfold RoomForFeedback at hRoom
      dsimp only at hRoom
      split at hRoom
      · rename_i hRegisters
        rw [if_pos hRegisters, enqueue, if_pos (by omega), List.length_append]
        exact hRoom
      · rename_i hRegisters
        rw [if_neg hRegisters]
        exact hRoom
  · have hFrames : frames (received input g) = [] := by rw [hNone]; rfl
    have hFires : fires g (.rf input) = [] := by rw [fires, hFrames]; rfl
    have hOver : overwrites g (.rf input) = none := by rw [overwrites, hFrames]; rfl
    rcases hOther with ⟨mode, hPost⟩ | ⟨mode, count, status, hMove⟩
    · rw [hPost]
      exact h.quiet hSafe hFires rfl ⟨[], (List.append_nil _).symm, by simp⟩ (by rw [hOver]; rfl)
        (enqueue_eq _ _)
    · rw [hMove]
      exact h.quiet hSafe hFires rfl ⟨[], (List.append_nil _).symm, by simp⟩ (by rw [hOver]; rfl)
        ⟨[], (List.append_nil _).symm⟩

theorem BacklogInv.wired {g next : Gateway} (h : BacklogInv g) {reads : PollReads}
    {letter : Report} (hAction : pollAction reads g = some (.report letter))
    (hSafe : BacklogSafe g (.hmi reads)) (hIdle : next.isSensorFeedback = false)
    (hNext : WiredReport letter g next) : BacklogInv next := by
  have hOver : overwrites g (.hmi reads) = some g.sensorData.inputChannel := by
    simp [overwrites, hAction]
  refine h.produce hSafe hIdle ⟨_, hNext.log, fun e he f hf => ?_⟩ ?_ ?_ ?_ ?_
  · rw [List.mem_singleton.mp he] at hf
    cases letter with
    | F => simpa [fires, hAction] using (Option.some.inj hf).symm
    | L | E | T => cases hf
  · rw [hNext.cur, hOver]
    rfl
  · intro _ hNone
    rw [hOver] at hNone
    cases hNone
  · rw [hNext.queue]
    exact mem_enqueue _
  · rw [hNext.queue]
    exact fun _ => mem_enqueue_self _

theorem BacklogInv.hmi {g : Gateway} (h : BacklogInv g) (reads : PollReads)
    (hSafe : BacklogSafe g (.hmi reads)) : BacklogInv (step g (.hmi reads)) := by
  have hIdle := step_isSensorFeedback h.idle (.hmi reads)
  have same : ∃ more, g.dataProcess = g.dataProcess ++ more := ⟨[], (List.append_nil _).symm⟩
  obtain ⟨hT, hF, hE⟩ := wiredReport_effect reads g
  rw [step] at hIdle ⊢
  rcases hmiProcess_cases reads g with
    ⟨hAction, b, hNext⟩ | ⟨hAction, hNext⟩ | ⟨_, ⟨hAction, hNext⟩ | ⟨hAction, hNext⟩ |
      ⟨hAction, hNext⟩⟩
  · rw [hNext]
    exact h.quiet hSafe (by simp [fires, hAction]) rfl ⟨[], (List.append_nil _).symm, by simp⟩
      (by simp [overwrites, hAction]) same
  · have hFires : fires g (.hmi reads) = [] := by simp [fires, hAction]
    have hOver : overwrites g (.hmi reads) = freeSlot g.sensorData := by simp [overwrites, hAction]
    rw [hNext, wiredRegister]
    dsimp only
    cases hFree : freeSlot g.sensorData with
    | none =>
      exact h.quiet hSafe hFires rfl ⟨[], (List.append_nil _).symm, by simp⟩
        (by rw [hOver, hFree]; rfl) same
    | some c =>
      obtain ⟨more, hMore⟩ := enqueue_eq .ssRegisterServer g.dataProcess
      obtain ⟨more', hMore'⟩ := enqueue_eq .ssFeedbackFlag (g.dataProcess ++ more)
      refine h.quiet hSafe hFires rfl ⟨[.wiredSlot c], rfl, by simp [Observation.fire?]⟩
        (by rw [hOver, hFree]; rfl) ⟨more ++ more', ?_⟩
      rw [← List.append_assoc, ← hMore', ← hMore]
      rfl
  · rw [hNext] at hIdle ⊢
    exact h.wired hAction hSafe hIdle hT
  · rw [hNext] at hIdle ⊢
    exact h.wired hAction hSafe hIdle hF
  · rw [hNext] at hIdle ⊢
    exact h.wired hAction hSafe hIdle hE

theorem BacklogInv.heartbeat {g : Gateway} (h : BacklogInv g) (now : Int) (id : Nat)
    (hSafe : BacklogSafe g (.heartbeat now id)) : BacklogInv (step g (.heartbeat now id)) := by
  have hOver : overwrites g (.heartbeat now id) =
      if heartbeatExpired now id g then some id else none := rfl
  simp only [step, checkHeartbeat]
  cases hFind : g.heartbeat.find? fun node => node.id = id with
  | none => exact h
  | some checker =>
    have hId : checker.id = id := by
      have hTest := List.find?_some hFind
      exact of_decide_eq_true hTest
    dsimp only
    split
    · rename_i hTime
      refine h.quiet hSafe rfl rfl ⟨[], (List.append_nil _).symm, by simp⟩ ?_ (enqueue_eq _ _)
      have hExpired : heartbeatExpired now id g = true := by
        simp [heartbeatExpired, hFind, hTime]
      rw [hOver, hExpired]
      exact hId
    · exact h

/-! ## The consumer -/

theorem unpublished_sends {g next : Gateway} (h : Sends g next) {f : Nat}
    (hf : f ∈ unpublished next) : f ∈ unpublished g := by
  obtain ⟨_, _, _, log, rfl, packets, rfl⟩ := h
  rcases (mem_pending.mp hf).of_append with hBefore | ⟨e, he, hOpen⟩
  · exact mem_pending.mpr hBefore
  · obtain ⟨packet, _, rfl⟩ := List.mem_map.mp he
    cases hOpen

/-- The packet built for `curDetector` answers the last unpublished fire report. -/
theorem unpublished_feedback {g : Gateway}
    (h : ∀ f ∈ unpublished g, f = g.sensorData.curDetector) :
    unpublished (handleDataEvent .ssFeedbackFlag g) = [] := by
  have hNone : ∀ f ∈ unpublished g, ¬ some g.sensorData.curDetector ≠ some f := by
    intro f hf hNe
    exact hNe (congrArg some (h f hf).symm)
  change pending _ _ (g.log ++ [.published (.sensorData _ _ _)]) = []
  rw [pending_concat]
  change [] ++ List.filter _ _ = []
  rw [List.nil_append, List.filter_eq_nil_iff]
  intro f hf
  rw [decide_eq_true_eq]
  exact hNone f hf

theorem BacklogInv.mqttSend {g : Gateway} (h : BacklogInv g) : BacklogInv (step g .mqttSend) := by
  have hIdle := step_isSensorFeedback h.idle .mqttSend
  rw [step] at hIdle ⊢
  rcases mqttSendTask_cases g with hSame | ⟨event, rest, hQueue, hHandle⟩
  · rw [hSame]
    exact h
  rw [hHandle] at hIdle ⊢
  have hSends := handleDataEvent_sends event { g with dataProcess := rest }
  have hOld := fun f => unpublished_sends (f := f) hSends
  refine ⟨hIdle, fun f hf => ?_, fun hSome => ?_⟩
  · obtain ⟨_, _, _, _, hNext, _⟩ := hSends
    rw [hNext]
    exact h.current f (hOld f hf)
  · obtain ⟨f, hf⟩ := List.exists_mem_of_ne_nil _ hSome
    have hQueued := h.queued (List.ne_nil_of_mem (hOld f hf))
    rw [hQueue] at hQueued
    rw [handleDataEvent_dataProcess]
    rcases List.mem_cons.mp hQueued with hHead | hTail
    · rw [← hHead, unpublished_feedback (g := { g with dataProcess := rest }) h.current] at hf
      cases hf
    · exact hTail

/-! ## Runs -/

theorem BacklogInv.step {g : Gateway} (h : BacklogInv g) {event : Event}
    (hSafe : BacklogSafe g event) : BacklogInv (step g event) := by
  have hSilent : ∃ news, g.log = g.log ++ news ∧ ∀ e ∈ news, e.fire? = none :=
    ⟨[], (List.append_nil _).symm, by simp⟩
  cases event with
  | rf input => exact h.rf input hSafe
  | hmi reads => exact h.hmi reads hSafe
  | addSub code | stopAddSub | updateFw | networkType =>
    exact h.quiet hSafe rfl rfl hSilent rfl (enqueue_eq _ _)
  | removeSub node =>
    have hOver : overwrites g (.removeSub node) =
      if Removable node g then some (g.sensorData.erase node.toNat).curDetector else none := rfl
    rcases removeSubDevices_cases node g with ⟨hRemove, hErase⟩ | ⟨_, hSame⟩
    · rw [FcomGateway.step, hErase]
      exact h.quiet hSafe rfl rfl ⟨[.erased node.toNat], rfl, by simp [Observation.fire?]⟩
        (by rw [hOver, if_pos hRemove]; rfl) ⟨[], (List.append_nil _).symm⟩
    · rw [FcomGateway.step, hSame]
      exact h
  | mqttConnected =>
    obtain ⟨more, _, _, hConnected⟩ := mqttConnected_eq g
    rw [FcomGateway.step, hConnected]
    exact h.quiet hSafe rfl rfl hSilent rfl ⟨more, rfl⟩
  | mqttDisconnected =>
    exact h.quiet hSafe rfl rfl hSilent rfl ⟨[], (List.append_nil _).symm⟩
  | mqttSend => exact h.mqttSend
  | heartbeat now id => exact h.heartbeat now id hSafe

/-- No fire report is forgotten in a run whose events are all safe, however often MQTT comes and
goes. -/
theorem backlogLaw_always (saved : Option SensorData) (userReset : Bool) (clock : Nat → Int)
    {events : List Event} (hSafe : Along step BacklogSafe (boot saved userReset clock) events) :
    Always step BacklogLaw (boot saved userReset clock) events :=
  always_of_invariant (fun _ _ h hEvent => BacklogInv.step h hEvent) (fun _ h => h.law)
    ⟨rfl, fun _ hf => absurd hf List.not_mem_nil, fun h => absurd rfl h⟩ hSafe

theorem backlogLaw_one_report : Always step BacklogLaw (boot none false fun _ => 0)
    (startListening ++ [uartData (Report.F.bytes 1), .mqttConnected, .mqttSend, .mqttSend,
      .mqttSend]) :=
  backlogLaw_always none false (fun _ => 0) (by decide)

/-- Detectors 1 and 2 report fire while MQTT is away; both events are then published for
detector 2. -/
theorem first_report_forgotten : ¬ ∀ (saved : Option SensorData) (events : List Event),
    Always step BacklogLaw (boot saved false fun _ => 0) events := by
  intro h
  have hRun := h none (startListening ++ [uartData (Report.F.bytes 1),
    uartData (Report.F.bytes 2), .mqttConnected, .mqttSend, .mqttSend, .mqttSend, .mqttSend])
  revert hRun
  decide

end FcomGateway
