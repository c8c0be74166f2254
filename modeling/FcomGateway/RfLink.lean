import FcomGateway.Gateway

/-! # The RF link: `sensor_data_handler` of `uart_task.c`

The handler looks at every position of the received buffer. A position can start the tail of a
registration request, `N00}`, or the tail of a report, `Xdd}` with `X` one of F, L, E, T.
-/

namespace FcomGateway

/-- `dtmp[i]`: the buffer is cleared before every read, so past its end it holds zeros. -/
def byteAt (dtmp : List UInt8) (i : Nat) : UInt8 := dtmp.getD i 0

def Report.letter : Report → UInt8
  | .F => 0x46
  | .L => 0x4C
  | .E => 0x45
  | .T => 0x54

/-- `ADD = ((dtmp[i + 1] - 0x30) * 10) + (dtmp[i + 2] - 0x30)`, in C's `int`. -/
def reportAdd (dtmp : List UInt8) (i : Nat) : Int :=
  (((byteAt dtmp (i + 1)).toNat : Int) - 0x30) * 10 + (((byteAt dtmp (i + 2)).toNat : Int) - 0x30)

def Report.bytes (letter : Report) (dd : Fin 100) : List UInt8 :=
  [0x7B, letter.letter, 0x30 + UInt8.ofNat (dd / 10), 0x30 + UInt8.ofNat (dd % 10), 0x7D]

def requestBytes : List UInt8 := [0x7B, 0x4E, 0x30, 0x30, 0x7D]

def digits3 (b : UInt8) : List Nat := [b.toNat / 100, b.toNat % 100 / 10, b.toNat % 10]

def sFrame (d : SensorData) (slot : Nat) : SFrame where
  addH := slot / 10
  addL := slot % 10
  sync := digits3 (d.syncCode 0) ++ digits3 (d.syncCode 1) ++ digits3 (d.syncCode 2)

/-! ## The branches of the loop -/

/-- The `N00}` branch: the first unused slot is announced over RF. -/
def registerRequest (g : Gateway) : Gateway :=
  match freeSlot g.sensorData with
  | some c =>
    { (g.record (.sFrame (sFrame g.sensorData c))) with
      isRegisterSensor := true
      sensorData := g.sensorData.prepare c
      ssStateMachine := .configListenMode }
  | none => g

def acceptReport (letter : Report) (st : SensorState) (bat : Option BatState) (add : Nat)
    (g : Gateway) : Gateway :=
  { (g.record (.report letter add)) with
    sensorData := g.sensorData.record add st bat
    isSensorFeedback := true }

def reportF (add : Nat) (g : Gateway) : Gateway :=
  setAlarmStatus (updateRelayAlarmState add (acceptReport .F .alarmSt none add g))

def reportL (add : Nat) (g : Gateway) : Gateway :=
  recomputeAlarmStatus (acceptReport .L .normalSt (some .low) add g)

def reportE (add : Nat) (g : Gateway) : Gateway :=
  recomputeAlarmStatus (acceptReport .E .errorSt none add g)

def reportT (add : Nat) (g : Gateway) : Gateway :=
  recomputeAlarmStatus
    (updateRelayAlarmState add (acceptReport .T .normalSt (some .high) add g))

def onReport (letter : Report) (branch : Nat → Gateway → Gateway) (dtmp : List UInt8) (i : Nat)
    (g : Gateway) : Gateway :=
  if byteAt dtmp i = letter.letter ∧ byteAt dtmp (i + 3) = 0x7D then
    let add := reportAdd dtmp i
    if (0 < add ∧ add < 51) ∧ add ≤ 50 then branch add.toNat g else g
  else g

/-- One round of `for (i = 0; i < rxBytes; i++)`, five `if`s in a row. -/
def handleByte (dtmp : List UInt8) (g : Gateway) (i : Nat) : Gateway :=
  let g :=
    if byteAt dtmp i = 0x4E ∧ byteAt dtmp (i + 1) = 0x30 ∧ byteAt dtmp (i + 2) = 0x30 ∧
      byteAt dtmp (i + 3) = 0x7D then registerRequest g
    else g
  let g := onReport .F reportF dtmp i g
  let g := onReport .L reportL dtmp i g
  let g := onReport .E reportE dtmp i g
  onReport .T reportT dtmp i g

def isRegister2Server (num : Nat) (g : Gateway) : Bool × Gateway :=
  if MAX_DECTECTOR + 1 < num ∨ num < 1 then (false, g)
  else
    match (List.range' 1 num).find? fun idev =>
      g.sensorData.deviceActivated idev = 0 ∧ g.isRegisterSensor ≠ false with
    | some idev =>
      (true, { (g.record (.confirmed idev num)) with
        isRegisterSensor := false
        sensorData := { g.sensorData with
          deviceActivated := Function.update g.sensorData.deviceActivated idev 1 } })
    | none => (false, g)

theorem isRegister2Server_cases (num : Nat) (g : Gateway) :
    isRegister2Server num g = (false, g) ∨
    (g.isRegisterSensor = true ∧ ∃ idev, 1 ≤ idev ∧ idev ≤ num ∧
      g.sensorData.deviceActivated idev = 0 ∧
      (∀ j, 1 ≤ j → j < idev → g.sensorData.deviceActivated j ≠ 0) ∧
      isRegister2Server num g = (true, { (g.record (.confirmed idev num)) with
        isRegisterSensor := false
        sensorData := { g.sensorData with
          deviceActivated := Function.update g.sensorData.deviceActivated idev 1 } })) := by
  unfold isRegister2Server
  split
  · exact Or.inl rfl
  · split
    · rename_i idev hFind
      obtain ⟨hTest, hMem, hFirst⟩ := List.find?_range'_eq_some.mp hFind
      have hRange := List.mem_range'_1.mp hMem
      simp only [decide_eq_true_eq, Bool.not_eq_true', decide_eq_false_iff_not] at hTest hFirst
      refine Or.inr ⟨by simpa using hTest.2, idev, hRange.1, by omega, hTest.1, ?_, rfl⟩
      intro j hLow hHigh hFree
      exact hFirst j hLow hHigh ⟨hFree, hTest.2⟩
    · exact Or.inl rfl

/-- The loop over the received bytes; a buffer that does not begin with a brace is dropped. -/
def scanBuffer (dtmp : List UInt8) (g : Gateway) : Gateway :=
  if byteAt dtmp 0 = 0x7B then (List.range dtmp.length).foldl (handleByte dtmp) g else g

def confirmRegistration (g : Gateway) : Gateway :=
  if g.isSensorFeedback then
    let result := isRegister2Server g.sensorData.curDetector g
    if result.1 then xQueueSend .ssRegisterServer result.2 else result.2
  else g

theorem confirmRegistration_cases (g : Gateway) : confirmRegistration g = g ∨
    ∃ idev, 1 ≤ idev ∧ idev ≤ g.sensorData.curDetector ∧
      g.sensorData.deviceActivated idev = 0 ∧
      confirmRegistration g = xQueueSend .ssRegisterServer
        { (g.record (.confirmed idev g.sensorData.curDetector)) with
          isRegisterSensor := false
          sensorData := { g.sensorData with
            deviceActivated := Function.update g.sensorData.deviceActivated idev 1 } } := by
  rw [confirmRegistration]
  split
  · rcases isRegister2Server_cases g.sensorData.curDetector g with
      hSame | ⟨_, idev, hLow, hHigh, hFree, _, hConfirm⟩
    · exact Or.inl (by rw [hSame]; rfl)
    · exact Or.inr ⟨idev, hLow, hHigh, hFree, by rw [hConfirm]; rfl⟩
  · exact Or.inl rfl

theorem confirmRegistration_writes (g : Gateway) : ∃ queue log pending activated,
    confirmRegistration g = { g with
      dataProcess := queue
      log := log
      isRegisterSensor := pending
      sensorData := { g.sensorData with deviceActivated := activated } } := by
  rcases confirmRegistration_cases g with hSame | ⟨idev, _, _, _, hConfirm⟩
  · exact ⟨g.dataProcess, g.log, g.isRegisterSensor, g.sensorData.deviceActivated, hSame⟩
  · exact ⟨_, _, _, _, hConfirm⟩

def sendFeedback (now : Int) (g : Gateway) : Gateway :=
  if g.isSensorFeedback then
    addHeartbeat g.sensorData.curDetector now
      (xQueueSend .ssFeedbackFlag { g with isSensorFeedback := false })
  else g

/-- The handling of one `UART_DATA` event of which `dtmp` was read. -/
def sensorDataHandler (now : Int) (dtmp : List UInt8) (g : Gateway) : Gateway :=
  if 0 < dtmp.length then sendFeedback now (confirmRegistration (scanBuffer dtmp g)) else g

/-! ## The frames of a buffer -/

inductive Frame
  | request
  | report (letter : Report) (add : Nat)
  deriving DecidableEq, Repr

def Report.branch : Report → Nat → Gateway → Gateway
  | .F => reportF
  | .L => reportL
  | .E => reportE
  | .T => reportT

def applyFrame (g : Gateway) : Frame → Gateway
  | .request => registerRequest g
  | .report letter add => letter.branch add g

def reportOf (b : UInt8) : Option Report :=
  if b = 0x46 then some .F
  else if b = 0x4C then some .L
  else if b = 0x45 then some .E
  else if b = 0x54 then some .T
  else none

def frameAt (dtmp : List UInt8) (i : Nat) : Option Frame :=
  if byteAt dtmp (i + 3) = 0x7D then
    if byteAt dtmp i = 0x4E then
      if byteAt dtmp (i + 1) = 0x30 ∧ byteAt dtmp (i + 2) = 0x30 then some .request else none
    else
      match reportOf (byteAt dtmp i) with
      | some letter =>
        if 0 < reportAdd dtmp i ∧ reportAdd dtmp i < 51 then
          some (.report letter (reportAdd dtmp i).toNat)
        else none
      | none => none
  else none

/-- The frames that the handler acts on, in the order of the buffer. -/
def frames (dtmp : List UInt8) : List Frame :=
  if byteAt dtmp 0 = 0x7B then (List.range dtmp.length).filterMap (frameAt dtmp) else []

theorem reportOf_eq_some {b : UInt8} {letter : Report} :
    reportOf b = some letter ↔ b = letter.letter := by
  unfold reportOf
  constructor
  · intro h
    repeat' split at h
    all_goals first | (cases h; assumption) | cases h
  · rintro rfl
    cases letter <;> rfl

theorem handleByte_eq (dtmp : List UInt8) (g : Gateway) (i : Nat) :
    handleByte dtmp g i = match frameAt dtmp i with
      | some frame => applyFrame g frame
      | none => g := by
  unfold handleByte onReport frameAt
  generalize byteAt dtmp i = b, reportAdd dtmp i = add
  by_cases hClose : byteAt dtmp (i + 3) = 0x7D
  swap
  · simp [hClose]
  by_cases hN : b = 0x4E
  · subst hN
    have hOther : ∀ letter : Report, (0x4E : UInt8) ≠ letter.letter := by
      intro letter
      cases letter <;> decide
    by_cases hZeros : byteAt dtmp (i + 1) = 0x30 ∧ byteAt dtmp (i + 2) = 0x30
    · simp only [hClose, hOther, hZeros, and_self, false_and, if_true, if_false, applyFrame]
    · simp only [hClose, hOther, hZeros, and_true, true_and, if_true, if_false]
  · simp only [hClose, hN]
    cases hReport : reportOf b with
    | none =>
      have hOther : ∀ letter : Report, b ≠ letter.letter := by
        intro letter hb
        rw [reportOf_eq_some.mpr hb] at hReport
        cases hReport
      simp [hOther]
    | some letter =>
      have hb := reportOf_eq_some.mp hReport
      subst hb
      by_cases hAdd : 0 < add ∧ add < 51
      · have hLe : add ≤ 50 := by omega
        cases letter <;> simp [Report.letter, applyFrame, Report.branch, hAdd, hLe]
      · have hNot : ¬ ((0 < add ∧ add < 51) ∧ add ≤ 50) := fun h => hAdd h.1
        cases letter <;> simp [hAdd]

theorem foldl_handleByte (dtmp : List UInt8) (positions : List Nat) (g : Gateway) :
    positions.foldl (handleByte dtmp) g =
      (positions.filterMap (frameAt dtmp)).foldl applyFrame g := by
  induction positions generalizing g with
  | nil => rfl
  | cons i rest ih =>
    rw [List.foldl_cons, ih, handleByte_eq, List.filterMap_cons]
    cases frameAt dtmp i <;> rfl

theorem scanBuffer_eq (dtmp : List UInt8) (g : Gateway) :
    scanBuffer dtmp g = (frames dtmp).foldl applyFrame g := by
  unfold scanBuffer frames
  split
  · exact foldl_handleByte dtmp _ g
  · rfl

theorem frameAt_add_bounds {dtmp : List UInt8} {i : Nat} {letter : Report} {add : Nat}
    (h : frameAt dtmp i = some (.report letter add)) : 1 ≤ add ∧ add ≤ MAX_DECTECTOR := by
  unfold frameAt at h
  repeat' split at h
  all_goals try cases h
  rename_i hAdd
  unfold MAX_DECTECTOR
  omega

theorem frames_add_bounds {dtmp : List UInt8} {letter : Report} {add : Nat}
    (h : Frame.report letter add ∈ frames dtmp) : 1 ≤ add ∧ add ≤ MAX_DECTECTOR := by
  unfold frames at h
  split at h
  · obtain ⟨i, _, hFrame⟩ := List.mem_filterMap.mp h
    exact frameAt_add_bounds hFrame
  · cases h

end FcomGateway
