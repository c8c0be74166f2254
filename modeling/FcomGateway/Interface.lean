import Mathlib.Order.Interval.Finset.Nat
import Mathlib.Logic.Function.Basic

/-! # The shared types of `common_interface.h`

The per-detector arrays have `MAX_DECTECTOR + 1` entries, of which 1 to `MAX_DECTECTOR` are
detectors. They are functions of the index here; the 8-bit counters of the table never exceed
`MAX_DECTECTOR + 1` and are natural numbers.
-/

namespace FcomGateway

def MAX_DECTECTOR : Nat := 50

inductive MasterRfEvent
  | initCmd
  | findingSub
  | waitAddSub
  | configAddMode
  | registerSub
  | configListenMode
  | listenSubEvent
  | finishedAddSub
  deriving DecidableEq, Repr

inductive DataEvent
  | gwAddSubDeviceFlag
  | gwFeedbackFlag
  | ssFeedbackFlag
  | jobRequestedFeedbackFlag
  | ssRegisterServer
  | ssUploadDb
  | jobRequestedOta
  | gwResetSsState
  | ssErrorFlag
  deriving DecidableEq, Repr

inductive GwStatus
  | normal
  | addSubDevice
  | error
  deriving DecidableEq, Repr

inductive BatState
  | low
  | middle
  | high
  deriving DecidableEq, Repr

inductive SensorState
  | normalSt
  | alarmSt
  | errorSt
  | maxSt
  deriving DecidableEq, Repr

structure SensorData where
  dtorSensorState : Nat → SensorState
  dtorBatState : Nat → BatState
  syncCode : Nat → UInt8
  curDetector : Nat
  maxDetector : Nat
  deviceActivated : Nat → Nat
  inputChannel : Nat

/-- The zero-initialised global that `app_main` keeps when no table can be read back. -/
def SensorData.zero : SensorData where
  dtorSensorState _ := .normalSt
  dtorBatState _ := .low
  syncCode _ := 0
  curDetector := 0
  maxDetector := 0
  deviceActivated _ := 0
  inputChannel := 0

structure GatewayData where
  mqttStatus : Bool
  alarmStatus : Bool
  userReset : Bool
  status : GwStatus
  deriving DecidableEq, Repr

/-! ## The table as a set of detectors in alarm -/

def alarmed (state : Nat → SensorState) : Finset Nat :=
  (Finset.Icc 1 MAX_DECTECTOR).filter fun i => state i = .alarmSt

theorem mem_alarmed {state : Nat → SensorState} {i : Nat} :
    i ∈ alarmed state ↔ (1 ≤ i ∧ i ≤ MAX_DECTECTOR) ∧ state i = .alarmSt := by
  rw [alarmed, Finset.mem_filter, Finset.mem_Icc]

theorem alarmed_update_alarm (state : Nat → SensorState) {d : Nat}
    (hd : 1 ≤ d ∧ d ≤ MAX_DECTECTOR) :
    alarmed (Function.update state d .alarmSt) = insert d (alarmed state) := by
  ext i
  rw [Finset.mem_insert, mem_alarmed, mem_alarmed]
  by_cases hi : i = d
  · subst hi
    simp [hd]
  · simp [hi]

theorem alarmed_update_quiet (state : Nat → SensorState) (d : Nat) {st : SensorState}
    (hst : st ≠ .alarmSt) : alarmed (Function.update state d st) = (alarmed state).erase d := by
  ext i
  rw [Finset.mem_erase, mem_alarmed, mem_alarmed]
  by_cases hi : i = d
  · subst hi
    simp [hst]
  · simp [hi]

/-- The loop `for (int i = 1; i <= 50; i++)` that recomputes the flag `alarm`. -/
def anyAlarm (d : SensorData) : Bool :=
  (List.range' 1 MAX_DECTECTOR).any fun i => d.dtorSensorState i = .alarmSt

theorem anyAlarm_iff {d : SensorData} :
    anyAlarm d = true ↔ (alarmed d.dtorSensorState).Nonempty := by
  simp only [anyAlarm, List.any_eq_true, List.mem_range'_1, decide_eq_true_eq, Finset.Nonempty,
    mem_alarmed]
  constructor
  · rintro ⟨i, ⟨hLow, hHigh⟩, hAlarm⟩
    exact ⟨i, ⟨hLow, by omega⟩, hAlarm⟩
  · rintro ⟨i, ⟨hLow, hHigh⟩, hAlarm⟩
    exact ⟨i, ⟨hLow, by omega⟩, hAlarm⟩

/-! ## Slots of the table -/

/-- The scan for the first entry of `device_activated` that is 0, made by the RF handler and by
the HMI task alike. -/
def freeSlot (d : SensorData) : Option Nat :=
  (List.range' 1 MAX_DECTECTOR).find? fun c => d.deviceActivated c = 0

/-- What such a scan over the first `n` entries finds. -/
theorem find_unused_eq_some {d : SensorData} {n c : Nat} :
    (List.range' 1 n).find? (fun c => d.deviceActivated c = 0) = some c ↔
      (1 ≤ c ∧ c ≤ n) ∧ d.deviceActivated c = 0 ∧
        ∀ j, 1 ≤ j → j < c → d.deviceActivated j ≠ 0 := by
  rw [List.find?_range'_eq_some]
  simp only [decide_eq_true_eq, List.mem_range'_1, Bool.not_eq_true', decide_eq_false_iff_not]
  constructor
  · rintro ⟨hFree, ⟨hLow, hHigh⟩, hFirst⟩
    exact ⟨⟨hLow, by omega⟩, hFree, hFirst⟩
  · rintro ⟨⟨hLow, hHigh⟩, hFree, hFirst⟩
    exact ⟨hFree, ⟨hLow, by omega⟩, hFirst⟩

theorem freeSlot_eq_some {d : SensorData} {c : Nat} : freeSlot d = some c ↔
    (1 ≤ c ∧ c ≤ MAX_DECTECTOR) ∧ d.deviceActivated c = 0 ∧
      ∀ j, 1 ≤ j → j < c → d.deviceActivated j ≠ 0 :=
  find_unused_eq_some

theorem activated_mark {activated : Nat → Nat} {i : Nat} (h : activated i = 1) (c : Nat) :
    Function.update activated c 1 i = 1 := by
  by_cases hi : i = c
  · rw [hi, Function.update_self]
  · rw [Function.update_of_ne hi, h]

def findCurDetector (d : SensorData) : Nat :=
  if d.maxDetector = 0 then 0
  else ((List.range' 1 MAX_DECTECTOR).find? fun i => d.deviceActivated i = 1).getD 0

/-- What an accepted report writes into the table. `bat` is `none` in the branches that leave
the battery entry alone. -/
def SensorData.record (d : SensorData) (add : Nat) (st : SensorState) (bat : Option BatState) :
    SensorData :=
  { d with
    dtorSensorState := Function.update d.dtorSensorState add st
    dtorBatState := match bat with
      | none => d.dtorBatState
      | some b => Function.update d.dtorBatState add b
    curDetector := add }

@[simp] theorem record_dtorSensorState (d : SensorData) (add : Nat) (st : SensorState)
    (bat : Option BatState) :
    (d.record add st bat).dtorSensorState = Function.update d.dtorSensorState add st := rfl

@[simp] theorem record_curDetector (d : SensorData) (add : Nat) (st : SensorState)
    (bat : Option BatState) : (d.record add st bat).curDetector = add := rfl

@[simp] theorem record_deviceActivated (d : SensorData) (add : Nat) (st : SensorState)
    (bat : Option BatState) : (d.record add st bat).deviceActivated = d.deviceActivated := rfl

@[simp] theorem record_maxDetector (d : SensorData) (add : Nat) (st : SensorState)
    (bat : Option BatState) : (d.record add st bat).maxDetector = d.maxDetector := rfl

/-- Preparing slot `c` for a new detector: `maxDetector` grows to it and its entries are reset. -/
def SensorData.prepare (d : SensorData) (c : Nat) : SensorData :=
  { d with
    maxDetector := if d.maxDetector < c then c else d.maxDetector
    dtorSensorState := Function.update d.dtorSensorState c .normalSt
    dtorBatState := Function.update d.dtorBatState c .high }

end FcomGateway
