import FcomGateway.System

/-! # The range of the table loops

The loops over the table run up to `maxDetector`. The two places that hand a slot out raise it,
the one that activates a slot for a pending registration does not: it takes the first slot that is
unused by then, which may lie beyond the slot that was offered.
-/

namespace FcomGateway

open EventTrace

/-- The loops up to `maxDetector` visit every registered detector. -/
def Covered (d : SensorData) : Prop :=
  ∀ i ∈ List.range' 1 MAX_DECTECTOR, d.deviceActivated i = 1 → i ≤ d.maxDetector

instance (d : SensorData) : Decidable (Covered d) :=
  inferInstanceAs (Decidable (∀ i ∈ List.range' 1 MAX_DECTECTOR, _))

def CoverageLaw (g : Gateway) : Prop := Covered g.sensorData

instance (g : Gateway) : Decidable (CoverageLaw g) := inferInstanceAs (Decidable (Covered _))

/-- A buffer that registers a detector without a request of its own finds an unused slot up to
`maxDetector`. -/
def CoverageSafe (g : Gateway) : Event → Prop
  | .rf input => Registers g (frames (received input g)) →
      Frame.request ∉ frames (received input g) →
        ∃ c ∈ List.range' 1 g.sensorData.maxDetector, g.sensorData.deviceActivated c = 0
  | _ => True

instance (g : Gateway) : (event : Event) → Decidable (CoverageSafe g event)
  | .rf input => inferInstanceAs (Decidable (Registers g (frames (received input g)) →
      Frame.request ∉ frames (received input g) → _))
  | .hmi _ | .addSub _ | .stopAddSub | .removeSub _ | .updateFw | .mqttConnected
  | .mqttDisconnected | .mqttSend | .heartbeat _ _ | .networkType => .isTrue trivial

namespace Covered

variable {d d' : SensorData}

theorem mono (h : Covered d) (hMax : d.maxDetector ≤ d'.maxDetector)
    (hActive : ∀ i, d'.deviceActivated i = 1 → d.deviceActivated i = 1) : Covered d' :=
  fun i hRange hOne => (h i hRange (hActive i hOne)).trans hMax

theorem of_eq (h : Covered d) (hMax : d'.maxDetector = d.maxDetector)
    (hActive : d'.deviceActivated = d.deviceActivated) : Covered d' :=
  h.mono hMax.ge fun i hOne => by rwa [hActive] at hOne

theorem activate_iff (h : Covered d) {c : Nat} (hRange : 1 ≤ c ∧ c ≤ MAX_DECTECTOR)
    (hMax : d.maxDetector ≤ d'.maxDetector)
    (hActive : d'.deviceActivated = Function.update d.deviceActivated c 1) :
    Covered d' ↔ c ≤ d'.maxDetector := by
  constructor
  · intro hCovered
    refine hCovered c (List.mem_range'_1.mpr ⟨hRange.1, by omega⟩) ?_
    rw [hActive, Function.update_self]
  · intro hSlot i hMem hOne
    by_cases hi : i = c
    · rw [hi]
      exact hSlot
    · rw [hActive, Function.update_of_ne hi] at hOne
      exact (h i hMem hOne).trans hMax

end Covered

/-! ## Buffers -/

theorem prepare_maxDetector (d : SensorData) (c : Nat) :
    (d.prepare c).maxDetector = max d.maxDetector c := by
  change (if d.maxDetector < c then c else d.maxDetector) = _
  split
  · exact (max_eq_right (by omega)).symm
  · exact (max_eq_left (by omega)).symm

theorem applyFrame_maxDetector (g : Gateway) (frame : Frame) :
    (applyFrame g frame).sensorData.maxDetector =
      match frame, freeSlot g.sensorData with
      | .request, some c => max g.sensorData.maxDetector c
      | _, _ => g.sensorData.maxDetector := by
  cases frame with
  | request =>
    simp only [applyFrame, registerRequest]
    cases freeSlot g.sensorData with
    | none => rfl
    | some c => exact prepare_maxDetector g.sensorData c
  | report letter add =>
    cases letter <;>
      simp [applyFrame, Report.branch, reportF, reportL, reportE, reportT, setAlarmStatus,
        recomputeAlarmStatus, acceptReport]

theorem frames_maxDetector (list : List Frame) (g : Gateway) :
    (list.foldl applyFrame g).sensorData.maxDetector =
      if Frame.request ∈ list then
        max g.sensorData.maxDetector ((freeSlot g.sensorData).getD 0)
      else g.sensorData.maxDetector := by
  induction list generalizing g with
  | nil => rfl
  | cons frame rest ih =>
    rw [List.foldl_cons, ih, applyFrame_freeSlot, applyFrame_maxDetector]
    cases frame with
    | request =>
      cases freeSlot g.sensorData with
      | none => simp
      | some c => simp
    | report letter add => simp

theorem sensorDataHandler_maxDetector (now : Int) (dtmp : List UInt8) (g : Gateway) :
    (sensorDataHandler now dtmp g).sensorData.maxDetector =
      if Frame.request ∈ frames dtmp then
        max g.sensorData.maxDetector ((freeSlot g.sensorData).getD 0)
      else g.sensorData.maxDetector := by
  have confirmed : ∀ g, (confirmRegistration g).sensorData.maxDetector =
      g.sensorData.maxDetector := by
    intro g
    obtain ⟨_, _, _, _, hWrites⟩ := confirmRegistration_writes g
    rw [hWrites]
  rw [← frames_maxDetector, ← scanBuffer_eq]
  cases dtmp with
  | nil => rfl
  | cons b rest => rw [sensorDataHandler_cons, sendFeedback_sensorData, confirmed]

theorem freeSlot_of_registeredSlot {g : Gateway} {dtmp : List UInt8} {c : Nat}
    (h : registeredSlot g (frames dtmp) = some c) : freeSlot g.sensorData = some c := by
  obtain ⟨_, d, hLast, ⟨hLow, hHigh⟩, hFree, hFirst⟩ := registeredSlot_eq_some.mp h
  have hBounds := lastAdd_bounds hLast
  exact freeSlot_eq_some.mpr ⟨⟨hLow, by omega⟩, hFree, hFirst⟩

theorem coverageLaw_handler {g : Gateway} (hIdle : g.isSensorFeedback = false)
    (hLaw : CoverageLaw g) (now : Int) (dtmp : List UInt8) :
    CoverageLaw (sensorDataHandler now dtmp g) ↔
      (Registers g (frames dtmp) → Frame.request ∉ frames dtmp →
        ∃ c ∈ List.range' 1 g.sensorData.maxDetector, g.sensorData.deviceActivated c = 0) := by
  have hMax := sensorDataHandler_maxDetector now dtmp g
  have hTable := sensorDataHandler_deviceActivated now dtmp hIdle
  have hGrows : g.sensorData.maxDetector ≤
      (sensorDataHandler now dtmp g).sensorData.maxDetector := by
    rw [hMax]
    split
    · exact le_max_left _ _
    · exact le_refl _
  rw [registers_iff]
  cases hSlot : registeredSlot g (frames dtmp) with
  | none =>
    rw [hSlot] at hTable
    refine iff_of_true (hLaw.mono hGrows fun i hOne => ?_) nofun
    rwa [hTable] at hOne
  | some c =>
    rw [hSlot] at hTable
    have hFree := freeSlot_of_registeredSlot hSlot
    obtain ⟨hRange, hUnused, hFirst⟩ := freeSlot_eq_some.mp hFree
    refine (hLaw.activate_iff hRange hGrows hTable).trans ?_
    rw [hMax, hFree]
    by_cases hRequest : Frame.request ∈ frames dtmp
    · rw [if_pos hRequest]
      exact iff_of_true (le_max_right _ _) fun _ hNone => absurd hRequest hNone
    · rw [if_neg hRequest]
      constructor
      · intro hSlotLe _ _
        exact ⟨c, List.mem_range'_1.mpr ⟨hRange.1, by omega⟩, hUnused⟩
      · intro h
        obtain ⟨j, hMem, hZero⟩ := h rfl hRequest
        have hj := List.mem_range'_1.mp hMem
        by_contra hBeyond
        exact hFirst j hj.1 (by omega) hZero

/-! ## The other events -/

/-- A slot handed out by the HMI task is within `maxDetector`. -/
theorem coverageLaw_hmi {g : Gateway} (hLaw : CoverageLaw g) (reads : PollReads) :
    CoverageLaw (hmiProcess reads g) := by
  have table : ∀ {next : Gateway}, next.sensorData.maxDetector = g.sensorData.maxDetector →
      next.sensorData.deviceActivated = g.sensorData.deviceActivated → CoverageLaw next :=
    fun hMax hActive => Covered.of_eq hLaw hMax hActive
  rcases hmiProcess_cases reads g with
    ⟨_, b, hSame⟩ | ⟨_, hRegister⟩ | ⟨_, ⟨_, hStep⟩ | ⟨_, hStep⟩ | ⟨_, hStep⟩⟩
  · rw [hSame]
    exact hLaw
  · rw [hRegister, wiredRegister]
    split
    · rename_i c hFree
      have hMax := prepare_maxDetector g.sensorData c
      refine (Covered.activate_iff hLaw (freeSlot_eq_some.mp hFree).1 ?_ rfl).mpr ?_
      · exact (le_max_left g.sensorData.maxDetector c).trans_eq hMax.symm
      · exact (le_max_right g.sensorData.maxDetector c).trans_eq hMax.symm
    · exact hLaw
  · rw [hStep, wiredT, updateRelayAlarmState_eq]
    exact table rfl rfl
  · rw [hStep, wiredF, updateRelayAlarmState_eq]
    exact table rfl rfl
  · rw [hStep]
    exact table rfl rfl

theorem coverageLaw_removal {g : Gateway} (hLaw : CoverageLaw g) (node : Int) :
    CoverageLaw (removeSubDevices node g) := by
  rcases removeSubDevices_cases node g with ⟨_, hErase⟩ | ⟨_, hSame⟩
  · rw [hErase]
    refine Covered.mono hLaw (le_refl g.sensorData.maxDetector) fun i hOne => ?_
    by_cases hi : i = node.toNat
    · subst hi
      exact absurd ((Function.update_self node.toNat 0 _).symm.trans hOne) Nat.zero_ne_one
    · exact (Function.update_of_ne hi 0 _).symm.trans hOne
  · rw [hSame]
    exact hLaw

/-! ## Runs -/

theorem coverageLaw_step_iff {g : Gateway} (hIdle : g.isSensorFeedback = false)
    (hLaw : CoverageLaw g) (event : Event) : CoverageLaw (step g event) ↔ CoverageSafe g event := by
  cases event with
  | rf input =>
    rcases rfHandleExtTask_cases input g with
      ⟨now, hHandle⟩ | ⟨hNone, ⟨mode, hPost⟩ | ⟨mode, count, status, hMove⟩⟩
    · rw [step, hHandle]
      exact coverageLaw_handler hIdle hLaw now (received input g)
    all_goals
      have hQuiet : CoverageSafe g (.rf input) := by
        rw [CoverageSafe, hNone]
        rintro ⟨_, d, hLast, _⟩
        cases hLast
    · rw [step, hPost]
      exact iff_of_true hLaw hQuiet
    · rw [step, hMove]
      exact iff_of_true hLaw hQuiet
  | hmi reads =>
    exact iff_of_true (coverageLaw_hmi hLaw reads) trivial
  | addSub code | stopAddSub | updateFw | networkType | mqttDisconnected =>
    exact iff_of_true hLaw trivial
  | removeSub node =>
    exact iff_of_true (coverageLaw_removal hLaw node) trivial
  | mqttConnected =>
    obtain ⟨_, _, _, hConnected⟩ := mqttConnected_eq g
    rw [step, hConnected]
    exact iff_of_true hLaw trivial
  | mqttSend =>
    refine iff_of_true ?_ trivial
    rcases mqttSendTask_cases g with hSame | ⟨event, rest, _, hHandle⟩
    · rw [step, hSame]
      exact hLaw
    · obtain ⟨_, _, _, _, hSend, _⟩ := handleDataEvent_sends event { g with dataProcess := rest }
      rw [step, hHandle, hSend]
      exact hLaw
  | heartbeat now id =>
    refine iff_of_true ?_ trivial
    simp only [step, checkHeartbeat]
    split
    · split
      · exact hLaw
      · exact hLaw
    · exact hLaw

/-- The loops up to `maxDetector` visit every registered detector exactly when they do so in the
restored table and no buffer registers a slot beyond `maxDetector`. -/
theorem coverage_always_iff (saved : Option SensorData) (userReset : Bool) (clock : Nat → Int)
    (events : List Event) : Always step CoverageLaw (boot saved userReset clock) events ↔
      Covered (saved.getD .zero) ∧ Along step CoverageSafe (boot saved userReset clock) events := by
  have hRuns : CoverageLaw (boot saved userReset clock) →
      (Always step CoverageLaw (boot saved userReset clock) events ↔
        Along step CoverageSafe (boot saved userReset clock) events) :=
    always_iff_along (J := fun g : Gateway => g.isSensorFeedback = false)
      (fun g event hIdle => step_isSensorFeedback hIdle event)
      (fun g event hIdle hLaw => coverageLaw_step_iff hIdle hLaw event) rfl
  constructor
  · intro h
    exact ⟨h.head, (hRuns h.head).mp h⟩
  · rintro ⟨hInit, hSafe⟩
    exact (hRuns hInit).mpr hSafe

def lowPins : PollReads where
  registerFire := false
  registerFault := false
  releaseFire := false
  releaseFault := false
  normalFire := false
  normalFault := false
  alarmFire := true
  errorFault := false
  checkTime := 0
  stampTime := 0
  addTime := 0

/-- Slot 1 is offered over RF and taken by the wired input; the report of detector 2 then
activates slot 2, which was never offered. -/
theorem unoffered_slot_activated : ¬ ∀ events : List Event,
    Always step CoverageLaw (boot none false fun _ => 0) events := by
  intro h
  have hRun := (h (startListening ++ [uartData requestBytes, .addSub fun _ => 0,
    .rf ⟨false, none⟩, .rf ⟨false, none⟩, .hmi lowPins, .rf ⟨false, none⟩,
    uartData (Report.F.bytes 2)])).last
  revert hRun
  decide

end FcomGateway
