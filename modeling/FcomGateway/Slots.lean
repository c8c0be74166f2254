import FcomGateway.System

/-! # The slot allocator

What the addressing of detectors is about: which slots are in use, whether an announced slot
waits for its detector, and the history of announcements, wirings, confirmations and removals.
Every event of the gateway acts on the allocator as a list of four kinds of operations.
-/

namespace FcomGateway

open EventTrace

inductive SlotEvent
  | announced (slot : Nat)
  | wired (slot : Nat)
  | confirmed (slot reporter : Nat)
  | removed (slot : Nat)
  deriving DecidableEq, Repr

def Observation.slotEvent? : Observation → Option SlotEvent
  | .sFrame frame => some (.announced frame.slot)
  | .wiredSlot slot => some (.wired slot)
  | .confirmed slot reporter => some (.confirmed slot reporter)
  | .erased slot => some (.removed slot)
  | _ => none

structure Allocator where
  activated : Nat → Nat
  pending : Bool
  history : List SlotEvent

inductive AllocOp
  | request
  | wire
  | confirm (reporter : Nat)
  | remove (slot : Nat)
  deriving DecidableEq, Repr

namespace Allocator

def firstUnused (p : Allocator) : Option Nat :=
  (List.range' 1 MAX_DECTECTOR).find? fun c => p.activated c = 0

/-- The slot that a report of `reporter` confirms while one is pending. -/
def confirmable (p : Allocator) (reporter : Nat) : Option Nat :=
  if MAX_DECTECTOR + 1 < reporter ∨ reporter < 1 then none
  else (List.range' 1 reporter).find? fun idev => p.activated idev = 0 ∧ p.pending ≠ false

def record (p : Allocator) (event : SlotEvent) : Allocator :=
  { p with history := p.history ++ [event] }

def apply (p : Allocator) : AllocOp → Allocator
  | .request =>
    match p.firstUnused with
    | some c => { p.record (.announced c) with pending := true }
    | none => p
  | .wire =>
    match p.firstUnused with
    | some c => { p.record (.wired c) with activated := Function.update p.activated c 1 }
    | none => p
  | .confirm reporter =>
    match p.confirmable reporter with
    | some c =>
      { p.record (.confirmed c reporter) with
        activated := Function.update p.activated c 1
        pending := false }
    | none => p
  | .remove slot =>
    { p.record (.removed slot) with activated := Function.update p.activated slot 0 }

theorem apply_history (p : Allocator) (op : AllocOp) :
    (p.apply op).history = p.history ∨ ∃ e, (p.apply op).history = p.history ++ [e] := by
  cases op with
  | request | wire =>
    simp only [apply]
    cases p.firstUnused with
    | none => exact Or.inl rfl
    | some c => exact Or.inr ⟨_, rfl⟩
  | confirm reporter =>
    simp only [apply]
    cases p.confirmable reporter with
    | none => exact Or.inl rfl
    | some c => exact Or.inr ⟨_, rfl⟩
  | remove slot => exact Or.inr ⟨_, rfl⟩

end Allocator

def Gateway.allocator (g : Gateway) : Allocator where
  activated := g.sensorData.deviceActivated
  pending := g.isRegisterSensor
  history := g.log.filterMap Observation.slotEvent?

/-! ## The operations of an event -/

def Frame.allocOps : Frame → List AllocOp
  | .request => [.request]
  | .report _ _ => []

/-- The requests of a buffer in their order, then the confirmation by its last reporter. -/
def bufferOps (list : List Frame) : List AllocOp :=
  list.flatMap Frame.allocOps ++ (lastAdd list).toList.map .confirm

def allocOps (g : Gateway) : Event → List AllocOp
  | .rf input => bufferOps (frames (received input g))
  | .hmi reads => if pollAction reads g = some .register then [.wire] else []
  | .removeSub node => if Removable node g then [.remove node.toNat] else []
  | _ => []

/-! ## Functions that leave the allocator alone -/

@[simp] theorem xQueueSend_allocator (event : DataEvent) (g : Gateway) :
    (xQueueSend event g).allocator = g.allocator := rfl

@[simp] theorem postFeedback_allocator (now : Int) (g : Gateway) :
    (postFeedback now g).allocator = g.allocator :=
  xQueueSend_allocator .ssFeedbackFlag g

theorem allocator_record {g next : Gateway} (event : Observation)
    (hEvent : event.slotEvent? = none) (hTable : next.sensorData.deviceActivated =
      g.sensorData.deviceActivated) (hPending : next.isRegisterSensor = g.isRegisterSensor)
    (hLog : next.log = g.log ++ [event]) : next.allocator = g.allocator := by
  rw [Gateway.allocator, Gateway.allocator, hTable, hPending, hLog, List.filterMap_append,
    List.filterMap_cons_none hEvent, List.filterMap_nil, List.append_nil]

theorem branch_allocator (letter : Report) (add : Nat) (g : Gateway) :
    (letter.branch add g).allocator = g.allocator := by
  refine allocator_record (.report letter add) rfl ?_ ?_ ?_ <;>
    cases letter <;>
      simp [Report.branch, reportF, reportL, reportE, reportT, setAlarmStatus,
        recomputeAlarmStatus, acceptReport]

theorem wired_allocator (reads : PollReads) (g : Gateway) :
    (wiredT reads g).allocator = g.allocator ∧ (wiredF reads g).allocator = g.allocator ∧
      (wiredE reads g).allocator = g.allocator := by
  refine ⟨?_, ?_, ?_⟩
  · rw [wiredT, postFeedback_allocator]
    exact allocator_record (.wiredReport .T g.sensorData.inputChannel) rfl
      (by simp [recomputeAlarmStatus, acceptWired]) (by simp [recomputeAlarmStatus, acceptWired])
      (by simp [recomputeAlarmStatus, acceptWired])
  · rw [wiredF, postFeedback_allocator]
    exact allocator_record (.wiredReport .F g.sensorData.inputChannel) rfl
      (by simp [setAlarmStatus, acceptWired]) (by simp [setAlarmStatus, acceptWired])
      (by simp [setAlarmStatus, acceptWired])
  · rw [wiredE, postFeedback_allocator]
    exact allocator_record (.wiredReport .E g.sensorData.inputChannel) rfl rfl rfl rfl

theorem sends_allocator {g next : Gateway} (h : Sends g next) :
    next.allocator = g.allocator := by
  obtain ⟨_, _, _, _, rfl, packets, rfl⟩ := h
  have hNone : (packets.map Observation.published).filterMap Observation.slotEvent? = [] := by
    rw [List.filterMap_map, List.filterMap_eq_nil_iff]
    exact fun _ _ => rfl
  rw [Gateway.allocator, Gateway.allocator, List.filterMap_append, hNone, List.append_nil]

/-! ## Buffers -/

theorem sFrame_slot (d : SensorData) (c : Nat) : (sFrame d c).slot = c := by
  change c / 10 * 10 + c % 10 = c
  omega

theorem applyFrame_allocator (g : Gateway) (frame : Frame) :
    (applyFrame g frame).allocator = run Allocator.apply g.allocator frame.allocOps := by
  cases frame with
  | request =>
    have hFirst : g.allocator.firstUnused = freeSlot g.sensorData := rfl
    simp only [applyFrame, registerRequest, Frame.allocOps, run_cons, run_nil, Allocator.apply,
      hFirst]
    cases freeSlot g.sensorData with
    | none => rfl
    | some c =>
      simp [Gateway.allocator, Allocator.record, Observation.slotEvent?, sFrame_slot,
        SensorData.prepare]
  | report letter add => exact branch_allocator letter add g

theorem frames_allocator (list : List Frame) (g : Gateway) :
    (list.foldl applyFrame g).allocator =
      run Allocator.apply g.allocator (list.flatMap Frame.allocOps) := by
  induction list generalizing g with
  | nil => rfl
  | cons frame rest ih =>
    rw [List.foldl_cons, ih, applyFrame_allocator, List.flatMap_cons, run_append]

theorem isRegister2Server_allocator (num : Nat) (g : Gateway) :
    (isRegister2Server num g).2.allocator = g.allocator.apply (.confirm num) := by
  by_cases hRange : MAX_DECTECTOR + 1 < num ∨ num < 1
  · have hNone : g.allocator.confirmable num = none := if_pos hRange
    simp only [isRegister2Server, if_pos hRange, Allocator.apply, hNone]
  · have hFind : g.allocator.confirmable num = (List.range' 1 num).find? fun idev =>
        g.sensorData.deviceActivated idev = 0 ∧ g.isRegisterSensor ≠ false := if_neg hRange
    simp only [isRegister2Server, if_neg hRange, Allocator.apply, hFind]
    cases (List.range' 1 num).find? fun idev =>
      decide (g.sensorData.deviceActivated idev = 0 ∧ g.isRegisterSensor ≠ false) with
    | none => rfl
    | some c => simp [Gateway.allocator, Allocator.record, Observation.slotEvent?]

theorem confirmRegistration_allocator (g : Gateway) : (confirmRegistration g).allocator =
    if g.isSensorFeedback then g.allocator.apply (.confirm g.sensorData.curDetector)
    else g.allocator := by
  unfold confirmRegistration
  split
  · rw [← isRegister2Server_allocator]
    dsimp only
    split
    · rw [xQueueSend_allocator]
    · rfl
  · rfl

theorem sendFeedback_allocator (now : Int) (g : Gateway) :
    (sendFeedback now g).allocator = g.allocator := by
  unfold sendFeedback
  split
  · exact xQueueSend_allocator .ssFeedbackFlag { g with isSensorFeedback := false }
  · rfl

theorem sensorDataHandler_allocator (now : Int) (dtmp : List UInt8) {g : Gateway}
    (hIdle : g.isSensorFeedback = false) : (sensorDataHandler now dtmp g).allocator =
      run Allocator.apply g.allocator (bufferOps (frames dtmp)) := by
  cases dtmp with
  | nil => rfl
  | cons b rest =>
    obtain ⟨hCur, hFeedback⟩ := frames_reporter (frames (b :: rest)) g
    rw [sensorDataHandler_cons, sendFeedback_allocator, confirmRegistration_allocator,
      scanBuffer_eq, hCur, hFeedback, frames_allocator, bufferOps, run_append, hIdle]
    cases lastAdd (frames (b :: rest)) <;> rfl

/-! ## Events -/

theorem wiredRegister_allocator (reads : PollReads) (g : Gateway) :
    (wiredRegister reads g).allocator = g.allocator.apply .wire := by
  have hFirst : g.allocator.firstUnused = freeSlot g.sensorData := rfl
  simp only [wiredRegister, Allocator.apply, hFirst]
  cases freeSlot g.sensorData with
  | none => rfl
  | some c =>
    dsimp only
    rw [postFeedback_allocator, xQueueSend_allocator]
    simp [Gateway.allocator, Allocator.record, Observation.slotEvent?]

/-- Every event acts on the allocator as its list of operations. -/
theorem allocator_step {g : Gateway} (hIdle : g.isSensorFeedback = false) (event : Event) :
    (step g event).allocator = run Allocator.apply g.allocator (allocOps g event) := by
  cases event with
  | rf input =>
    rcases rfHandleExtTask_cases input g with
      ⟨now, hHandle⟩ | ⟨hNone, ⟨mode, hPost⟩ | ⟨mode, count, status, hMove⟩⟩
    · rw [step, hHandle]
      exact sensorDataHandler_allocator now _ hIdle
    · rw [step, hPost, allocOps, hNone]
      exact xQueueSend_allocator .gwFeedbackFlag g
    · rw [step, hMove, allocOps, hNone]
      rfl
  | hmi reads =>
    rcases hmiProcess_cases reads g with
      ⟨hAction, b, hIdle⟩ | ⟨hAction, hRegister⟩ | ⟨_, ⟨hAction, hReport⟩ |
        ⟨hAction, hReport⟩ | ⟨hAction, hReport⟩⟩
    · rw [step, hIdle, allocOps, hAction]
      rfl
    · rw [step, hRegister, allocOps, hAction]
      exact wiredRegister_allocator reads { g with isStartAddDevice := true }
    all_goals
      rw [step, hReport, allocOps, hAction]
      simp [wired_allocator]
  | addSub code | stopAddSub => rfl
  | removeSub node =>
    rcases removeSubDevices_cases node g with ⟨hRemove, hErase⟩ | ⟨hRemove, hSame⟩
    · rw [step, allocOps, hErase, if_pos hRemove]
      simp [Gateway.allocator, Allocator.apply, Allocator.record, Observation.slotEvent?,
        flashSaveSensorData, SensorData.erase]
    · rw [step, allocOps, hSame, if_neg hRemove]
      rfl
  | updateFw | networkType => rfl
  | mqttConnected =>
    obtain ⟨_, _, _, hConnected⟩ := mqttConnected_eq g
    rw [step, hConnected]
    rfl
  | mqttDisconnected => rfl
  | mqttSend =>
    rcases mqttSendTask_cases g with hSame | ⟨event, rest, _, hHandle⟩
    · rw [step, hSame]
      rfl
    · rw [step, hHandle]
      exact sends_allocator (g := { g with dataProcess := rest }) (handleDataEvent_sends event _)
  | heartbeat now id =>
    simp only [step, checkHeartbeat]
    split
    · split <;> rfl
    · rfl

end FcomGateway
