import FcomGateway.Library.ByteMemory
import FcomGateway.System

/-! # A reset while the table is saved

`flash_save_sensor_data` opens the file for writing, which empties it, and writes the struct; the
bytes reach the flash until the file is closed. `flash_read_sensor_data` reads over the zeroed
global, as many bytes as there are.
-/

namespace FcomGateway

open ByteMemory

def SENSOR_DATA_SIZE : Nat := 624

/-- The bytes of the struct that belong to no field, and what lies behind it. -/
def IsPadding (i : Nat) : Prop := 413 ≤ i ∧ i < 416 ∨ 621 ≤ i

/-- The bytes of `sensor_data`. No store of a field touches the padding, which begins as zero. -/
structure TableImage where
  bytes : Nat → UInt8
  padding : ∀ i, IsPadding i → bytes i = 0

def TableImage.file (table : TableImage) : List UInt8 := window table.bytes 0 SENSOR_DATA_SIZE

/-- Where a reset interrupts `flash_save_sensor_data`; `opened` tells how many of the bytes have
reached the flash when the file is open. -/
inductive SavePoint
  | beforeOpen
  | opened (written : Nat)
  | closed

def fileAt (old new : TableImage) : SavePoint → List UInt8
  | .beforeOpen => old.file
  | .opened written => new.file.take written
  | .closed => new.file

/-- `fread` of one `sensor_data_t`; its result is not looked at. -/
def freadTable (file : List UInt8) (sensorData : Nat → UInt8) : Nat → UInt8 := fun i =>
  if i < SENSOR_DATA_SIZE ∧ i < file.length then file.getD i 0 else sensorData i

def flashReadSensorData (file : Option (List UInt8)) (sensorData : Nat → UInt8) :
    Bool × (Nat → UInt8) :=
  match file with
  | some file => (true, freadTable file sensorData)
  | none => (false, sensorData)

/-- The next boot restores the old or the new table. -/
def AtomicSave (old new : TableImage) (point : SavePoint) : Prop :=
  let restored := flashReadSensorData (some (fileAt old new point)) fun _ => 0
  restored.1 = true ∧ (restored.2 = old.bytes ∨ restored.2 = new.bytes)

/-- No reset while the file is open, or what is missing of the new table is zero, or the part that
is there and zeros make up the old one. -/
def SavedOrKept (old new : TableImage) : SavePoint → Prop
  | .beforeOpen => True
  | .opened written => (∀ i, written ≤ i → new.bytes i = 0) ∨
      (∀ i < written, old.bytes i = new.bytes i) ∧ ∀ i, written ≤ i → old.bytes i = 0
  | .closed => True

/-! ## What is read -/

theorem file_length (table : TableImage) : table.file.length = SENSOR_DATA_SIZE := window_length

theorem file_getD (table : TableImage) {i : Nat} (hi : i < SENSOR_DATA_SIZE) :
    table.file.getD i 0 = table.bytes i := by
  rw [List.getD_eq_getElem _ _ (by rwa [file_length])]
  simp [TableImage.file, window]

theorem behind_zero (table : TableImage) {i : Nat} (hi : SENSOR_DATA_SIZE ≤ i) :
    table.bytes i = 0 := by
  refine table.padding i (.inr ?_)
  rw [SENSOR_DATA_SIZE] at hi
  omega

theorem freadTable_take (table : TableImage) (written : Nat) :
    freadTable (table.file.take written) (fun _ => 0) =
      fun i => if i < written then table.bytes i else 0 := by
  funext i
  rw [freadTable, List.length_take, file_length]
  by_cases hi : i < SENSOR_DATA_SIZE
  · by_cases hWritten : i < written
    · rw [if_pos ⟨hi, by omega⟩, if_pos hWritten, ← file_getD table hi, List.getD_eq_getElem?_getD,
        List.getD_eq_getElem?_getD, List.getElem?_take_of_lt hWritten]
    · rw [if_neg (by omega), if_neg hWritten]
  · rw [if_neg (by omega), behind_zero table (Nat.not_lt.mp hi), ite_self]

theorem freadTable_file (table : TableImage) :
    freadTable table.file (fun _ => 0) = table.bytes := by
  have hTake := freadTable_take table SENSOR_DATA_SIZE
  rw [List.take_of_length_le (file_length table).le] at hTake
  rw [hTake]
  funext i
  split
  · rfl
  · rename_i hBehind
    exact (behind_zero table (Nat.not_lt.mp hBehind)).symm

theorem cut_eq_iff {m m' : Nat → UInt8} {written : Nat} :
    (fun i => if i < written then m i else 0) = m' ↔
      (∀ i < written, m' i = m i) ∧ ∀ i, written ≤ i → m' i = 0 := by
  constructor
  · rintro rfl
    exact ⟨fun i hi => if_pos hi, fun i hi => if_neg (Nat.not_lt.mpr hi)⟩
  · rintro ⟨hBefore, hBehind⟩
    funext i
    split
    · rename_i hi
      exact (hBefore i hi).symm
    · rename_i hi
      exact (hBehind i (Nat.not_lt.mp hi)).symm

/-- A reset leaves the old or the new table if and only if it comes outside of the writing, or the
bytes that are missing are zero in the new table, or zero in the old one and the others the
same. -/
theorem atomicSave_iff (old new : TableImage) (point : SavePoint) :
    AtomicSave old new point ↔ SavedOrKept old new point := by
  unfold AtomicSave flashReadSensorData
  cases point with
  | beforeOpen => exact iff_of_true ⟨rfl, .inl (freadTable_file old)⟩ trivial
  | closed => exact iff_of_true ⟨rfl, .inr (freadTable_file new)⟩ trivial
  | opened written =>
    dsimp only [fileAt, SavedOrKept]
    rw [freadTable_take, cut_eq_iff, cut_eq_iff, eq_self_iff_true, true_and, or_comm]
    refine or_congr_left (and_iff_right fun _ _ => rfl)

/-! ## The table behind the bytes -/

def word (m : Nat → UInt8) (offset : Nat) : Nat :=
  (m offset).toNat + 256 * (m (offset + 1)).toNat + 65536 * (m (offset + 2)).toNat +
    16777216 * (m (offset + 3)).toNat

def sensorStateOf : Nat → SensorState
  | 0 => .normalSt
  | 1 => .alarmSt
  | 2 => .errorSt
  | _ => .maxSt

def batStateOf : Nat → BatState
  | 0 => .low
  | 1 => .middle
  | _ => .high

/-- The fields at their offsets in `sensor_data_t`. -/
def SensorData.ofImage (m : Nat → UInt8) : SensorData where
  dtorSensorState i := if i ≤ MAX_DECTECTOR then sensorStateOf (word m (4 * i)) else .normalSt
  dtorBatState i := if i ≤ MAX_DECTECTOR then batStateOf (word m (204 + 4 * i)) else .low
  syncCode i := if i < 3 then m (408 + i) else 0
  curDetector := (m 411).toNat
  maxDetector := (m 412).toNat
  deviceActivated i := if i ≤ MAX_DECTECTOR then word m (416 + 4 * i) else 0
  inputChannel := (m 620).toNat

theorem ofImage_zero : SensorData.ofImage (fun _ => 0) = .zero := by
  have hWord (offset : Nat) : word (fun _ => 0) offset = 0 := rfl
  simp only [SensorData.ofImage, SensorData.zero, hWord, sensorStateOf, batStateOf, ite_self]
  rfl

/-- After a reset between `fopen` and the first byte the gateway starts with no detector, as if it
had never been set up. -/
theorem boot_after_truncation (old new : TableImage) (userReset : Bool) (clock : Nat → Int) :
    let restored := flashReadSensorData (some (fileAt old new (.opened 0))) fun _ => 0
    restored.1 = true ∧
      boot (some (.ofImage restored.2)) userReset clock = boot (some .zero) userReset clock := by
  refine ⟨rfl, ?_⟩
  dsimp only [fileAt, flashReadSensorData]
  rw [freadTable_take, ← ofImage_zero]
  rfl

def oneDetectorImage : TableImage where
  bytes i := if i = 412 ∨ i = 420 then 1 else 0
  padding i hi := if_neg (by unfold IsPadding at hi; omega)

theorem resave_can_empty : ¬ AtomicSave oneDetectorImage oneDetectorImage (.opened 0) := by
  intro h
  have hByte : (flashReadSensorData (some (fileAt oneDetectorImage oneDetectorImage (.opened 0)))
      fun _ => 0).2 420 = oneDetectorImage.bytes 420 := by
    rcases h.2 with hOld | hNew
    · rw [hOld]
    · rw [hNew]
  revert hByte
  decide

end FcomGateway
