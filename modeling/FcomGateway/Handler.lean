import FcomGateway.RfLink

/-! # What a call of the RF handler does

The reporter that `curDetector` holds after the loop, the events sent, the table and the log.
-/

namespace FcomGateway

/-! ## The reporter of a buffer -/

def Frame.add? : Frame → Option Nat
  | .request => none
  | .report _ add => some add

/-- The address of the last report of a buffer, which `curDetector` holds after the loop. -/
def lastAdd (list : List Frame) : Option Nat := (list.filterMap Frame.add?).getLast?

theorem lastAdd_cons (frame : Frame) (rest : List Frame) :
    lastAdd (frame :: rest) = (lastAdd rest).or frame.add? := by
  cases frame with
  | request => simp [lastAdd, Frame.add?]
  | report letter add =>
    change (add :: rest.filterMap Frame.add?).getLast? = (lastAdd rest).or (some add)
    rw [lastAdd, List.getLast?_cons]
    cases (rest.filterMap Frame.add?).getLast? <;> rfl

theorem applyFrame_reporter (g : Gateway) (frame : Frame) :
    (applyFrame g frame).sensorData.curDetector = frame.add?.getD g.sensorData.curDetector ∧
    (applyFrame g frame).isSensorFeedback = (g.isSensorFeedback || frame.add?.isSome) := by
  cases frame with
  | request =>
    simp only [applyFrame, registerRequest]
    split <;> simp [SensorData.prepare, Frame.add?]
  | report letter add =>
    cases letter <;>
      simp [applyFrame, Report.branch, reportF, reportL, reportE, reportT, setAlarmStatus,
        recomputeAlarmStatus, acceptReport, Frame.add?]

theorem frames_reporter (list : List Frame) (g : Gateway) :
    (list.foldl applyFrame g).sensorData.curDetector =
      (lastAdd list).getD g.sensorData.curDetector ∧
    (list.foldl applyFrame g).isSensorFeedback =
      (g.isSensorFeedback || (lastAdd list).isSome) := by
  induction list generalizing g with
  | nil => simp [lastAdd]
  | cons frame rest ih =>
    obtain ⟨hCur, hFeedback⟩ := applyFrame_reporter g frame
    rw [List.foldl_cons, (ih _).1, (ih _).2, hCur, hFeedback, lastAdd_cons]
    cases lastAdd rest <;> simp

/-! ## The log of a buffer -/

def frameLog (d : SensorData) : Frame → List Observation
  | .request => (freeSlot d).toList.map fun c => .sFrame (sFrame d c)
  | .report letter add => [.report letter add]

theorem applyFrame_log (g : Gateway) (frame : Frame) :
    (applyFrame g frame).log = g.log ++ frameLog g.sensorData frame := by
  cases frame with
  | request =>
    simp only [applyFrame, registerRequest, frameLog]
    cases freeSlot g.sensorData with
    | none => exact (List.append_nil _).symm
    | some c => rfl
  | report letter add =>
    cases letter <;>
      simp [applyFrame, Report.branch, reportF, reportL, reportE, reportT, setAlarmStatus,
        recomputeAlarmStatus, acceptReport, frameLog]

def Frame.view? {β : Type} (view : Observation → Option β) : Frame → Option β
  | .request => none
  | .report letter add => view (.report letter add)

/-- A view that looks at reports only. -/
structure ReportView {β : Type} (view : Observation → Option β) : Prop where
  sFrame : ∀ frame, view (.sFrame frame) = none
  confirmed : ∀ slot reporter, view (.confirmed slot reporter) = none

theorem frames_log (list : List Frame) (g : Gateway) :
    ∃ news, (list.foldl applyFrame g).log = g.log ++ news ∧
      ∀ {β : Type} (view : Observation → Option β), ReportView view →
        news.filterMap view = list.filterMap (Frame.view? view) := by
  induction list generalizing g with
  | nil => exact ⟨[], (List.append_nil _).symm, fun _ _ => rfl⟩
  | cons frame rest ih =>
    obtain ⟨news, hLog, hNews⟩ := ih (applyFrame g frame)
    refine ⟨frameLog g.sensorData frame ++ news, ?_, fun view hView => ?_⟩
    · rw [List.foldl_cons, hLog, applyFrame_log, List.append_assoc]
    · have hFrame : (frameLog g.sensorData frame).filterMap view = (frame.view? view).toList := by
        cases frame with
        | request =>
          rw [frameLog]
          cases freeSlot g.sensorData <;> simp [Frame.view?, hView.sFrame]
        | report letter add =>
          simp only [frameLog, Frame.view?]
          cases h : view (.report letter add) <;> simp [h]
      rw [List.filterMap_append, hNews view hView, hFrame, List.filterMap_cons]
      cases frame.view? view <;> rfl

/-! ## The registration of a buffer -/

/-- A registration is pending or requested by the buffer, and some slot up to the last reporter
is unused. -/
def Registers (g : Gateway) (list : List Frame) : Prop :=
  (g.isRegisterSensor = true ∨ Frame.request ∈ list) ∧
    ∃ d ∈ lastAdd list, ∃ c ∈ List.range' 1 d, g.sensorData.deviceActivated c = 0

instance (g : Gateway) (list : List Frame) : Decidable (Registers g list) :=
  inferInstanceAs (Decidable (_ ∧ ∃ d ∈ lastAdd list, ∃ c ∈ List.range' 1 d, _))

theorem applyFrame_pending (g : Gateway) (frame : Frame) :
    (applyFrame g frame).sensorData.deviceActivated = g.sensorData.deviceActivated ∧
    ((applyFrame g frame).isRegisterSensor = true ↔
      g.isRegisterSensor = true ∨ frame = .request ∧ freeSlot g.sensorData ≠ none) := by
  cases frame with
  | request =>
    simp only [applyFrame, registerRequest]
    cases freeSlot g.sensorData <;> simp [SensorData.prepare]
  | report letter add =>
    cases letter <;>
      simp [applyFrame, Report.branch, reportF, reportL, reportE, reportT, setAlarmStatus,
        recomputeAlarmStatus, acceptReport]

/-- The frames of a buffer do not change which slot is the first unused one. -/
theorem applyFrame_freeSlot (g : Gateway) (frame : Frame) :
    freeSlot (applyFrame g frame).sensorData = freeSlot g.sensorData := by
  rw [freeSlot, (applyFrame_pending g frame).1]
  rfl

theorem frames_pending (list : List Frame) (g : Gateway) :
    (list.foldl applyFrame g).sensorData.deviceActivated = g.sensorData.deviceActivated ∧
    ((list.foldl applyFrame g).isRegisterSensor = true ↔
      g.isRegisterSensor = true ∨ Frame.request ∈ list ∧ freeSlot g.sensorData ≠ none) := by
  induction list generalizing g with
  | nil => simp
  | cons frame rest ih =>
    obtain ⟨hTable, hPending⟩ := applyFrame_pending g frame
    rw [List.foldl_cons, (ih _).1, (ih _).2, hTable, hPending, applyFrame_freeSlot,
      List.mem_cons, or_and_right, or_assoc, eq_comm (a := frame)]
    exact ⟨rfl, Iff.rfl⟩

theorem isRegister2Server_fst {num : Nat} (hNum : 1 ≤ num ∧ num ≤ MAX_DECTECTOR) (g : Gateway) :
    (isRegister2Server num g).1 = true ↔ g.isRegisterSensor = true ∧
      ∃ c ∈ List.range' 1 num, g.sensorData.deviceActivated c = 0 := by
  have hCall : ¬ (MAX_DECTECTOR + 1 < num ∨ num < 1) := by omega
  have hFound : (isRegister2Server num g).1 = ((List.range' 1 num).find? fun idev =>
      decide (g.sensorData.deviceActivated idev = 0 ∧ g.isRegisterSensor ≠ false)).isSome := by
    rw [isRegister2Server, if_neg hCall]
    split
    · rename_i idev hFind
      rw [hFind]
      rfl
    · rename_i hFind
      rw [hFind]
      rfl
  rw [hFound, List.find?_isSome]
  constructor
  · rintro ⟨c, hMem, hTest⟩
    obtain ⟨hUnused, hPending⟩ := of_decide_eq_true hTest
    exact ⟨Bool.eq_true_of_not_eq_false hPending, c, hMem, hUnused⟩
  · rintro ⟨hPending, c, hMem, hUnused⟩
    exact ⟨c, hMem, decide_eq_true ⟨hUnused, by rw [hPending]; nofun⟩⟩

theorem lastAdd_bounds {dtmp : List UInt8} {d : Nat} (h : lastAdd (frames dtmp) = some d) :
    1 ≤ d ∧ d ≤ MAX_DECTECTOR := by
  obtain ⟨frame, hFrame, hAdd⟩ := List.mem_filterMap.mp (List.mem_of_getLast? h)
  cases frame with
  | request => cases hAdd
  | report letter add =>
    cases hAdd
    exact frames_add_bounds hFrame

theorem scanBuffer_registers (dtmp : List UInt8) (g : Gateway) {d : Nat}
    (hLast : lastAdd (frames dtmp) = some d) :
    (isRegister2Server d (scanBuffer dtmp g)).1 = true ↔ Registers g (frames dtmp) := by
  have hBounds := lastAdd_bounds hLast
  obtain ⟨hTable, hPending⟩ := frames_pending (frames dtmp) g
  rw [isRegister2Server_fst hBounds, scanBuffer_eq, hTable, hPending, Registers, hLast]
  constructor
  · rintro ⟨hAsked, c, hMem, hUnused⟩
    exact ⟨hAsked.imp_right And.left, d, rfl, c, hMem, hUnused⟩
  · rintro ⟨hAsked, _, ⟨⟩, c, hMem, hUnused⟩
    refine ⟨hAsked.imp_right fun hRequest => ⟨hRequest, ?_⟩, c, hMem, hUnused⟩
    -- the unused slot up to the reporter is one for the request as well
    have hRange := List.mem_range'_1.mp hMem
    rw [freeSlot, ne_eq, List.find?_eq_none]
    intro hNone
    exact hNone c (List.mem_range'_1.mpr ⟨hRange.1, by omega⟩) (decide_eq_true hUnused)

/-- The slot that the last reporter of a buffer confirms: the first unused one up to its own. -/
def registeredSlot (g : Gateway) (list : List Frame) : Option Nat :=
  if g.isRegisterSensor = true ∨ Frame.request ∈ list then
    (lastAdd list).bind fun d =>
      (List.range' 1 d).find? fun c => g.sensorData.deviceActivated c = 0
  else none

theorem registeredSlot_eq_some {g : Gateway} {list : List Frame} {c : Nat} :
    registeredSlot g list = some c ↔
      (g.isRegisterSensor = true ∨ Frame.request ∈ list) ∧ ∃ d ∈ lastAdd list,
        (1 ≤ c ∧ c ≤ d) ∧ g.sensorData.deviceActivated c = 0 ∧
          ∀ j, 1 ≤ j → j < c → g.sensorData.deviceActivated j ≠ 0 := by
  unfold registeredSlot
  split
  · rename_i hAsked
    refine Iff.trans ?_ (and_iff_right hAsked).symm
    rw [Option.bind_eq_some_iff]
    exact exists_congr fun d => and_congr_right fun _ => find_unused_eq_some
  · rename_i hIdle
    exact iff_of_false (fun h => by cases h) fun h => hIdle h.1

theorem registers_iff {g : Gateway} {list : List Frame} :
    Registers g list ↔ (registeredSlot g list).isSome := by
  unfold Registers registeredSlot
  split
  · rename_i hAsked
    rw [and_iff_right hAsked]
    cases lastAdd list with
    | none => simp
    | some d => simp [List.find?_isSome]
  · rename_i hIdle
    exact iff_of_false (fun h => hIdle h.1) (by simp)

/-! ## The two sends -/

/-- What the loop over a buffer may change. -/
def Scans (g next : Gateway) : Prop :=
  ∃ table alarm relay out24V mode pending feedback log, next = { g with
    sensorData := table
    gatewayData := { g.gatewayData with alarmStatus := alarm }
    relay := relay
    out24V := out24V
    ssStateMachine := mode
    isRegisterSensor := pending
    isSensorFeedback := feedback
    log := log }

theorem Scans.trans {g middle next : Gateway} (h : Scans g middle) (h' : Scans middle next) :
    Scans g next := by
  obtain ⟨_, _, _, _, _, _, _, _, rfl⟩ := h
  obtain ⟨_, _, _, _, _, _, _, _, rfl⟩ := h'
  exact ⟨_, _, _, _, _, _, _, _, rfl⟩

theorem applyFrame_scans (g : Gateway) (frame : Frame) : Scans g (applyFrame g frame) := by
  cases frame with
  | request =>
    simp only [applyFrame, registerRequest]
    split
    · exact ⟨_, _, _, _, _, _, _, _, rfl⟩
    · exact ⟨_, _, _, _, _, _, _, _, rfl⟩
  | report letter add =>
    cases letter with
    | F | T =>
      simp only [applyFrame, Report.branch, reportF, reportT, updateRelayAlarmState_eq]
      exact ⟨_, _, _, _, _, _, _, _, rfl⟩
    | L | E => exact ⟨_, _, _, _, _, _, _, _, rfl⟩

theorem frames_scans (list : List Frame) (g : Gateway) : Scans g (list.foldl applyFrame g) := by
  induction list generalizing g with
  | nil => exact ⟨_, _, _, _, _, _, _, _, rfl⟩
  | cons frame rest ih => exact (applyFrame_scans g frame).trans (ih _)

theorem frames_dataProcess (list : List Frame) (g : Gateway) :
    (list.foldl applyFrame g).dataProcess = g.dataProcess := by
  obtain ⟨_, _, _, _, _, _, _, _, hScan⟩ := frames_scans list g
  rw [hScan]

theorem confirmRegistration_effect (g : Gateway) :
    (confirmRegistration g).sensorData.curDetector = g.sensorData.curDetector ∧
    (confirmRegistration g).isSensorFeedback = g.isSensorFeedback ∧
    (confirmRegistration g).dataProcess =
      if g.isSensorFeedback = true ∧ (isRegister2Server g.sensorData.curDetector g).1 = true then
        enqueue .ssRegisterServer g.dataProcess
      else g.dataProcess := by
  unfold confirmRegistration
  by_cases hFeedback : g.isSensorFeedback = true
  · rw [if_pos hFeedback]
    rcases isRegister2Server_cases g.sensorData.curDetector g with
      hSame | ⟨_, idev, _, _, _, _, hConfirm⟩
    · rw [hSame]
      exact ⟨rfl, rfl, by simp⟩
    · rw [hConfirm]
      exact ⟨rfl, rfl, (if_pos ⟨hFeedback, rfl⟩).symm⟩
  · rw [if_neg hFeedback]
    exact ⟨rfl, rfl, (if_neg fun hBoth => hFeedback hBoth.1).symm⟩

theorem sendFeedback_sensorData (now : Int) (g : Gateway) :
    (sendFeedback now g).sensorData = g.sensorData := by
  unfold sendFeedback
  split <;> rfl

theorem sendFeedback_sensorDataFile (now : Int) (g : Gateway) :
    (sendFeedback now g).sensorDataFile = g.sensorDataFile := by
  unfold sendFeedback
  split <;> rfl

theorem sendFeedback_effect (now : Int) (g : Gateway) :
    (sendFeedback now g).sensorData.curDetector = g.sensorData.curDetector ∧
    (sendFeedback now g).isSensorFeedback = false ∧
    (sendFeedback now g).dataProcess =
      if g.isSensorFeedback then enqueue .ssFeedbackFlag g.dataProcess else g.dataProcess := by
  unfold sendFeedback
  by_cases hFeedback : g.isSensorFeedback = true
  · rw [if_pos hFeedback, if_pos hFeedback]
    exact ⟨rfl, rfl, rfl⟩
  · rw [if_neg hFeedback, if_neg hFeedback]
    exact ⟨rfl, Bool.eq_false_iff.mpr hFeedback, rfl⟩

theorem sensorDataHandler_cons (now : Int) (b : UInt8) (rest : List UInt8) (g : Gateway) :
    sensorDataHandler now (b :: rest) g =
      sendFeedback now (confirmRegistration (scanBuffer (b :: rest) g)) :=
  if_pos (Nat.succ_pos _)

theorem sensorDataHandler_isSensorFeedback (now : Int) (dtmp : List UInt8) {g : Gateway}
    (h : g.isSensorFeedback = false) :
    (sensorDataHandler now dtmp g).isSensorFeedback = false := by
  unfold sensorDataHandler
  split
  · exact (sendFeedback_effect _ _).2.1
  · exact h

theorem sensorDataHandler_curDetector (now : Int) (dtmp : List UInt8) (g : Gateway) :
    (sensorDataHandler now dtmp g).sensorData.curDetector =
      (lastAdd (frames dtmp)).getD g.sensorData.curDetector := by
  cases dtmp with
  | nil => rfl
  | cons b rest =>
    rw [sensorDataHandler_cons, (sendFeedback_effect _ _).1,
      (confirmRegistration_effect _).1, scanBuffer_eq, (frames_reporter _ _).1]

theorem sensorDataHandler_dataProcess (now : Int) (dtmp : List UInt8) {g : Gateway}
    (h : g.isSensorFeedback = false) : (sensorDataHandler now dtmp g).dataProcess =
      if (lastAdd (frames dtmp)).isSome then
        enqueue .ssFeedbackFlag (if Registers g (frames dtmp) then
          enqueue .ssRegisterServer g.dataProcess else g.dataProcess)
      else g.dataProcess := by
  have hScan : (scanBuffer dtmp g).sensorData.curDetector =
        (lastAdd (frames dtmp)).getD g.sensorData.curDetector ∧
      (scanBuffer dtmp g).isSensorFeedback = (lastAdd (frames dtmp)).isSome ∧
      (scanBuffer dtmp g).dataProcess = g.dataProcess := by
    rw [scanBuffer_eq, (frames_reporter _ _).1, (frames_reporter _ _).2, h, Bool.false_or,
      frames_dataProcess]
    exact ⟨rfl, rfl, rfl⟩
  obtain ⟨hCur, hReport, hQueue⟩ := hScan
  obtain ⟨_, hFeedback, hConfirm⟩ := confirmRegistration_effect (scanBuffer dtmp g)
  rw [hReport] at hFeedback
  rw [hReport, hQueue, hCur] at hConfirm
  cases dtmp with
  | nil => rfl
  | cons b rest =>
    rw [sensorDataHandler_cons, (sendFeedback_effect _ _).2.2, hFeedback, hConfirm]
    cases hLast : lastAdd (frames (b :: rest)) with
    | none => rfl
    | some d =>
      have hRegisters := scanBuffer_registers (b :: rest) g hLast
      simp only [Option.isSome_some, Option.getD_some, if_true, true_and, hRegisters]

/-! ## The table -/

/-- The state and, where it says one, the battery that a report gives its detector. -/
def Report.entry : Report → SensorState × Option BatState
  | .F => (.alarmSt, none)
  | .L => (.normalSt, some .low)
  | .E => (.errorSt, none)
  | .T => (.normalSt, some .high)

namespace SensorData

/-- The table behind a report: the entries of its detector, and the detector as the last one. -/
def report (d : SensorData) (r : Report × Nat) : SensorData :=
  { d with
    dtorSensorState := fun i => if i = r.2 then r.1.entry.1 else d.dtorSensorState i
    dtorBatState := fun i => if i = r.2 then r.1.entry.2.getD (d.dtorBatState i)
      else d.dtorBatState i
    curDetector := r.2 }

/-- The table behind a frame; a request prepares the first unused slot. -/
def frame (d : SensorData) : Frame → SensorData
  | .request => (freeSlot d).elim d d.prepare
  | .report letter add => d.report (letter, add)

theorem record_entry (d : SensorData) (letter : Report) (add : Nat) :
    d.record add letter.entry.1 letter.entry.2 = d.report (letter, add) := by
  have hUpdate : ∀ {α : Type} (f : Nat → α) (x : α),
      Function.update f add x = fun i => if i = add then x else f i :=
    fun f x => funext fun i => Function.update_apply f add x i
  cases letter <;> simp [record, report, Report.entry, hUpdate]

end SensorData

theorem branch_sensorData (letter : Report) (add : Nat) (g : Gateway) :
    (letter.branch add g).sensorData = g.sensorData.report (letter, add) := by
  rw [← SensorData.record_entry]
  cases letter <;>
    simp [Report.branch, reportF, reportL, reportE, reportT, setAlarmStatus, recomputeAlarmStatus,
      acceptReport, Report.entry]

theorem applyFrame_sensorData (g : Gateway) (frame : Frame) :
    (applyFrame g frame).sensorData = g.sensorData.frame frame := by
  cases frame with
  | request =>
    simp only [applyFrame, registerRequest, SensorData.frame]
    cases freeSlot g.sensorData <;> rfl
  | report letter add => exact branch_sensorData letter add g

theorem frames_sensorData (list : List Frame) (g : Gateway) :
    (list.foldl applyFrame g).sensorData = list.foldl SensorData.frame g.sensorData := by
  induction list generalizing g with
  | nil => rfl
  | cons frame rest ih => rw [List.foldl_cons, ih, applyFrame_sensorData, List.foldl_cons]

/-- A call writes into the table what the frames of its buffer say, apart from a mark in
`device_activated`. -/
theorem sensorDataHandler_sensorData (now : Int) (dtmp : List UInt8) (g : Gateway) :
    (sensorDataHandler now dtmp g).sensorData =
      { (frames dtmp).foldl SensorData.frame g.sensorData with
        deviceActivated := (sensorDataHandler now dtmp g).sensorData.deviceActivated } := by
  cases dtmp with
  | nil => rfl
  | cons b rest =>
    obtain ⟨_, _, _, _, hWrites⟩ := confirmRegistration_writes (scanBuffer (b :: rest) g)
    rw [sensorDataHandler_cons, sendFeedback_sensorData, hWrites, scanBuffer_eq,
      frames_sensorData]

/-- The marks before and after: the same, or one unused slot is marked. -/
def MarksOne (before after : Nat → Nat) : Prop :=
  ∃ slot, 1 ≤ slot ∧ before slot = 0 ∧ after = Function.update before slot 1

theorem confirmRegistration_marks (g : Gateway) :
    ((confirmRegistration g).sensorData.deviceActivated = g.sensorData.deviceActivated ∧
      (confirmRegistration g).isRegisterSensor = g.isRegisterSensor) ∨
    (g.isRegisterSensor = true ∧ (confirmRegistration g).isRegisterSensor = false ∧
      MarksOne g.sensorData.deviceActivated
        (confirmRegistration g).sensorData.deviceActivated) := by
  rw [confirmRegistration]
  split
  · rcases isRegister2Server_cases g.sensorData.curDetector g with
      hSame | ⟨hPending, idev, hLow, _, hFree, _, hConfirm⟩
    · exact Or.inl (by rw [hSame]; exact ⟨rfl, rfl⟩)
    · exact Or.inr ⟨hPending, by rw [hConfirm]; rfl, idev, hLow, hFree, by rw [hConfirm]; rfl⟩
  · exact Or.inl ⟨rfl, rfl⟩

theorem sendFeedback_isRegisterSensor (now : Int) (g : Gateway) :
    (sendFeedback now g).isRegisterSensor = g.isRegisterSensor := by
  unfold sendFeedback
  split <;> rfl

/-- A slot is marked only where a registration was pending or the buffer asks for one. -/
theorem sensorDataHandler_marks (now : Int) (dtmp : List UInt8) (g : Gateway) :
    (sensorDataHandler now dtmp g).sensorData.deviceActivated = g.sensorData.deviceActivated ∧
      ((sensorDataHandler now dtmp g).isRegisterSensor = true →
        g.isRegisterSensor = true ∨ Frame.request ∈ frames dtmp) ∨
    ((g.isRegisterSensor = true ∨ Frame.request ∈ frames dtmp) ∧
      (sensorDataHandler now dtmp g).isRegisterSensor = false ∧
      MarksOne g.sensorData.deviceActivated
        (sensorDataHandler now dtmp g).sensorData.deviceActivated) := by
  cases dtmp with
  | nil => exact Or.inl ⟨rfl, Or.inl⟩
  | cons b rest =>
    obtain ⟨hTable, hPending⟩ := frames_pending (frames (b :: rest)) g
    rw [sensorDataHandler_cons, sendFeedback_sensorData, sendFeedback_isRegisterSensor]
    have hMarks := confirmRegistration_marks (scanBuffer (b :: rest) g)
    rw [scanBuffer_eq] at hMarks ⊢
    rw [hTable, hPending] at hMarks
    rcases hMarks with ⟨hSame, hFlag⟩ | ⟨hAsked, hDone, hMark⟩
    · refine Or.inl ⟨hSame, fun hAfter => ?_⟩
      rw [hFlag, hPending] at hAfter
      exact hAfter.imp_right And.left
    · exact Or.inr ⟨hAsked.imp_right And.left, hDone, hMark⟩

/-! ## The marks and the heartbeat list -/

theorem frames_heartbeat (list : List Frame) (g : Gateway) :
    (list.foldl applyFrame g).heartbeat = g.heartbeat := by
  obtain ⟨_, _, _, _, _, _, _, _, hScan⟩ := frames_scans list g
  rw [hScan]

theorem confirmRegistration_heartbeat (g : Gateway) :
    (confirmRegistration g).heartbeat = g.heartbeat := by
  obtain ⟨_, _, _, _, hWrites⟩ := confirmRegistration_writes g
  rw [hWrites]

theorem sensorDataHandler_heartbeat (now : Int) (dtmp : List UInt8) {g : Gateway}
    (h : g.isSensorFeedback = false) : (sensorDataHandler now dtmp g).heartbeat =
      match lastAdd (frames dtmp) with
      | some d => Heartbeat.addState d now g.heartbeat
      | none => g.heartbeat := by
  cases dtmp with
  | nil => rfl
  | cons b rest =>
    obtain ⟨hCur, hReport⟩ := frames_reporter (frames (b :: rest)) g
    obtain ⟨hKept, hFeedback, _⟩ := confirmRegistration_effect (scanBuffer (b :: rest) g)
    rw [scanBuffer_eq, hCur] at hKept
    rw [scanBuffer_eq, hReport, h, Bool.false_or] at hFeedback
    rw [sensorDataHandler_cons, sendFeedback, scanBuffer_eq, hFeedback]
    cases hLast : lastAdd (frames (b :: rest)) with
    | none =>
      rw [if_neg (by simp), confirmRegistration_heartbeat, frames_heartbeat]
    | some d =>
      rw [hLast] at hKept
      rw [if_pos (by simp), addHeartbeat, hKept]
      change Heartbeat.addState d now (confirmRegistration _).heartbeat = _
      rw [confirmRegistration_heartbeat, frames_heartbeat]

theorem sensorDataHandler_sensorDataFile (now : Int) (dtmp : List UInt8) (g : Gateway) :
    (sensorDataHandler now dtmp g).sensorDataFile = g.sensorDataFile := by
  have confirmed : ∀ g, (confirmRegistration g).sensorDataFile = g.sensorDataFile := by
    intro g
    obtain ⟨_, _, _, _, hWrites⟩ := confirmRegistration_writes g
    rw [hWrites]
  cases dtmp with
  | nil => rfl
  | cons b rest =>
    obtain ⟨_, _, _, _, _, _, _, _, hScan⟩ := frames_scans (frames (b :: rest)) g
    rw [sensorDataHandler_cons, sendFeedback_sensorDataFile, confirmed, scanBuffer_eq, hScan]

theorem isRegister2Server_table (dtmp : List UInt8) (g : Gateway) {d : Nat}
    (hLast : lastAdd (frames dtmp) = some d) :
    (isRegister2Server d (scanBuffer dtmp g)).2.sensorData.deviceActivated =
      match registeredSlot g (frames dtmp) with
      | some c => Function.update g.sensorData.deviceActivated c 1
      | none => g.sensorData.deviceActivated := by
  have hRegisters := (scanBuffer_registers dtmp g hLast).trans registers_iff
  have hTable : (scanBuffer dtmp g).sensorData.deviceActivated = g.sensorData.deviceActivated := by
    rw [scanBuffer_eq]
    exact (frames_pending (frames dtmp) g).1
  rcases isRegister2Server_cases d (scanBuffer dtmp g) with
    hSame | ⟨_, idev, hLow, hHigh, hFree, hFirst, hConfirm⟩
  · rw [hSame] at hRegisters ⊢
    rw [Option.not_isSome_iff_eq_none.mp fun hSome => Bool.false_ne_true (hRegisters.mpr hSome)]
    exact hTable
  · rw [hConfirm] at hRegisters ⊢
    rw [hTable] at hFree hFirst ⊢
    have hSlot : registeredSlot g (frames dtmp) = some idev :=
      registeredSlot_eq_some.mpr ⟨(registers_iff.mpr (hRegisters.mp rfl)).1, d, hLast,
        ⟨hLow, hHigh⟩, hFree, hFirst⟩
    rw [hSlot]

theorem sensorDataHandler_deviceActivated (now : Int) (dtmp : List UInt8) {g : Gateway}
    (h : g.isSensorFeedback = false) :
    (sensorDataHandler now dtmp g).sensorData.deviceActivated =
      match registeredSlot g (frames dtmp) with
      | some c => Function.update g.sensorData.deviceActivated c 1
      | none => g.sensorData.deviceActivated := by
  cases hLast : lastAdd (frames dtmp) with
  | none =>
    have hSlot : registeredSlot g (frames dtmp) = none := by
      rw [registeredSlot, hLast]
      exact ite_self none
    cases dtmp with
    | nil => rw [hSlot]; rfl
    | cons b rest =>
      have hQuiet : (scanBuffer (b :: rest) g).isSensorFeedback = false := by
        rw [scanBuffer_eq, (frames_reporter _ _).2, h, hLast]
        rfl
      rw [hSlot, sensorDataHandler_cons, sendFeedback_sensorData, confirmRegistration, hQuiet,
        scanBuffer_eq]
      exact (frames_pending (frames (b :: rest)) g).1
  | some d =>
    cases dtmp with
    | nil => cases hLast
    | cons b rest =>
      have hReport : (scanBuffer (b :: rest) g).isSensorFeedback = true := by
        rw [scanBuffer_eq, (frames_reporter _ _).2, hLast]
        exact Bool.or_true _
      have hCur : (scanBuffer (b :: rest) g).sensorData.curDetector = d := by
        rw [scanBuffer_eq, (frames_reporter _ _).1, hLast]
        rfl
      rw [sensorDataHandler_cons, sendFeedback_sensorData, confirmRegistration, if_pos hReport,
        hCur, ← isRegister2Server_table (b :: rest) g hLast]
      dsimp only
      split <;> rfl

/-! ## The log of a call -/

theorem confirmRegistration_log (g : Gateway) : ∃ news, (confirmRegistration g).log =
    g.log ++ news ∧ ∀ e ∈ news, ∃ slot reporter, e = .confirmed slot reporter := by
  rcases confirmRegistration_cases g with hSame | ⟨idev, _, _, _, hConfirm⟩
  · rw [hSame]
    exact ⟨[], (List.append_nil _).symm, by simp⟩
  · rw [hConfirm]
    exact ⟨[_], rfl, fun e he => ⟨_, _, List.mem_singleton.mp he⟩⟩

theorem sendFeedback_log (now : Int) (g : Gateway) : (sendFeedback now g).log = g.log := by
  unfold sendFeedback
  split
  · exact xQueueSend_log .ssFeedbackFlag { g with isSensorFeedback := false }
  · rfl

theorem sensorDataHandler_log (now : Int) (dtmp : List UInt8) (g : Gateway) :
    ∃ news, (sensorDataHandler now dtmp g).log = g.log ++ news ∧
      ∀ {β : Type} (view : Observation → Option β), ReportView view →
        news.filterMap view = (frames dtmp).filterMap (Frame.view? view) := by
  cases dtmp with
  | nil => exact ⟨[], (List.append_nil _).symm, fun _ _ => rfl⟩
  | cons b rest =>
    obtain ⟨news, hLog, hNews⟩ := frames_log (frames (b :: rest)) g
    obtain ⟨more, hMore, hConfirmed⟩ := confirmRegistration_log (scanBuffer (b :: rest) g)
    refine ⟨news ++ more, ?_, fun view hView => ?_⟩
    · rw [sensorDataHandler_cons, sendFeedback_log, hMore, scanBuffer_eq, hLog, List.append_assoc]
    · have hNone : more.filterMap view = [] := by
        rw [List.filterMap_eq_nil_iff]
        intro e he
        obtain ⟨slot, reporter, rfl⟩ := hConfirmed e he
        exact hView.confirmed slot reporter
      rw [List.filterMap_append, hNews view hView, hNone, List.append_nil]

end FcomGateway
