import FcomGateway.Library.EventTrace
import FcomGateway.CJson

/-! # Writes from the phone

`gatts_profile_event_handler` copies what was written to a buffer of 250 bytes and sends its
address to `ble_config_wifi_task`, which finds the length again with `strlen`.
-/

namespace FcomGateway

open EventTrace CJson

def GATTS_DEMO_CHAR_VAL_LEN_MAX : Nat := 500

def SPP_CMD_SIZE : Nat := 250

def BLE_RECEIVE_LENGTH : Nat := 10

/-- `charCfg` says that the handle is that of `IDX_CHAR_CFG_A`. -/
structure GattWrite where
  value : List UInt8
  charCfg : Bool
  isPrep : Bool
  admitted : value.length ≤ GATTS_DEMO_CHAR_VAL_LEN_MAX

structure SppCmdBuff where
  bytes : List UInt8
  size : bytes.length = SPP_CMD_SIZE

namespace SppCmdBuff

/-- The cleared buffer after `memcpy`; what is written behind its end is not part of it. -/
def copy (value : List UInt8) : SppCmdBuff where
  bytes := (value ++ List.replicate SPP_CMD_SIZE 0).take SPP_CMD_SIZE
  size := by
    rw [List.length_take, List.length_append, List.length_replicate]
    omega

/-- The text up to the `strlen` of the buffer; `none` when `strlen` reads on behind its end. -/
def message (buffer : SppCmdBuff) : Option (List UInt8) :=
  if 0 ∈ buffer.bytes then some (cString buffer.bytes) else none

end SppCmdBuff

/-- `copies` has the lengths that were copied, `sent` the values whose buffers were taken by the
queue, and `parsed` the messages of `ble_config_wifi_task`. -/
structure BleLink where
  isOtaNtf : Bool
  receiveQueue : List SppCmdBuff
  copies : List Nat
  sent : List (List UInt8)
  parsed : List (Option (List UInt8))

/-- `allocated` says whether `malloc` finds memory. -/
inductive BleEvent
  | write (w : GattWrite) (allocated : Bool)
  | receive

namespace BleLink

def boot : BleLink where
  isOtaNtf := false
  receiveQueue := []
  copies := []
  sent := []
  parsed := []

def configNotify (value : List UInt8) (s : BleLink) : BleLink :=
  let descrValue := (value.getD 1 0).toNat * 256 + (value.getD 0 0).toNat
  if descrValue = 1 then { s with isOtaNtf := true }
  else if descrValue = 0 then { s with isOtaNtf := false }
  else s

/-- `xQueueSend` gives up when the queue stays full. -/
def handOver (value : List UInt8) (s : BleLink) : BleLink :=
  let s := { s with copies := s.copies ++ [value.length] }
  if s.receiveQueue.length < BLE_RECEIVE_LENGTH then
    { s with
      receiveQueue := s.receiveQueue ++ [.copy value]
      sent := s.sent ++ [value] }
  else s

/-- `ESP_GATTS_WRITE_EVT` -/
def gattsWrite (w : GattWrite) (allocated : Bool) (s : BleLink) : BleLink :=
  if w.isPrep = false then
    if w.charCfg = true ∧ w.value.length = 2 then s.configNotify w.value
    else if allocated = false then s
    else s.handOver w.value
  else s

/-- `ble_config_wifi_task` up to the parser. -/
def receive (s : BleLink) : BleLink :=
  match s.receiveQueue with
  | [] => s
  | buffer :: rest => { s with receiveQueue := rest, parsed := s.parsed ++ [buffer.message] }

def step (s : BleLink) : BleEvent → BleLink
  | .write w allocated => s.gattsWrite w allocated
  | .receive => s.receive

/-! ## The law -/

/-- Every copy stays inside its buffer, and what was parsed and what waits in the queue are the
values that were sent, each up to its first NUL. -/
structure HandOverLaw (s : BleLink) : Prop where
  inside : ∀ length ∈ s.copies, length ≤ SPP_CMD_SIZE
  messages : s.parsed ++ s.receiveQueue.map SppCmdBuff.message =
    s.sent.map fun value => some (cString value)

/-- A value that is copied fits into the buffer, and one that is sent leaves room for a NUL or has
one. -/
def HandOverSafe (s : BleLink) : BleEvent → Prop
  | .write w allocated => w.isPrep = false → ¬ (w.charCfg = true ∧ w.value.length = 2) →
      allocated = true → w.value.length ≤ SPP_CMD_SIZE ∧
        (s.receiveQueue.length < BLE_RECEIVE_LENGTH →
          w.value.length < SPP_CMD_SIZE ∨ 0 ∈ w.value)
  | .receive => True

end BleLink

/-! ## The buffer -/

theorem cString_append_zeros (value : List UInt8) (n : Nat) :
    cString (value ++ List.replicate n 0) = cString value := by
  induction value with
  | nil => cases n <;> rfl
  | cons b value ih =>
    simp only [cString, List.cons_append, List.takeWhile_cons] at ih ⊢
    rw [ih]

theorem copy_bytes {value : List UInt8} (h : value.length ≤ SPP_CMD_SIZE) :
    (SppCmdBuff.copy value).bytes =
      value ++ List.replicate (SPP_CMD_SIZE - value.length) 0 := by
  dsimp only [SppCmdBuff.copy]
  rw [List.take_append, List.take_of_length_le h, List.take_replicate,
    Nat.min_eq_left (Nat.sub_le _ _)]

theorem message_copy_iff {value : List UInt8} (h : value.length ≤ SPP_CMD_SIZE) :
    (SppCmdBuff.copy value).message = some (cString value) ↔
      value.length < SPP_CMD_SIZE ∨ 0 ∈ value := by
  have hNul : 0 ∈ (SppCmdBuff.copy value).bytes ↔ value.length < SPP_CMD_SIZE ∨ 0 ∈ value := by
    rw [copy_bytes h, List.mem_append, List.mem_replicate, or_comm]
    refine or_congr_left ⟨fun hPad => ?_, fun hShort => ⟨?_, rfl⟩⟩
    · have hRoom := hPad.1
      omega
    · omega
  rw [← hNul, SppCmdBuff.message]
  constructor
  · intro hSome
    by_contra hNone
    rw [if_neg hNone] at hSome
    cases hSome
  · intro hMem
    rw [if_pos hMem, copy_bytes h, cString_append_zeros]

namespace BleLink

theorem gattsWrite_cases (w : GattWrite) (allocated : Bool) (s : BleLink) :
    (∃ ntf, s.gattsWrite w allocated = { s with isOtaNtf := ntf } ∧
      ¬ (w.isPrep = false ∧ ¬ (w.charCfg = true ∧ w.value.length = 2) ∧ allocated = true)) ∨
    s.gattsWrite w allocated = s.handOver w.value ∧
      (w.isPrep = false ∧ ¬ (w.charCfg = true ∧ w.value.length = 2) ∧ allocated = true) := by
  unfold gattsWrite
  split
  · rename_i hPrep
    split
    · rename_i hConfig
      refine .inl ?_
      unfold configNotify
      dsimp only
      split
      · exact ⟨true, rfl, fun h => h.2.1 hConfig⟩
      · split
        · exact ⟨false, rfl, fun h => h.2.1 hConfig⟩
        · exact ⟨s.isOtaNtf, rfl, fun h => h.2.1 hConfig⟩
    · rename_i hConfig
      split
      · rename_i hMemory
        refine .inl ⟨s.isOtaNtf, rfl, fun h => ?_⟩
        rw [hMemory] at h
        exact absurd h.2.2 (by decide)
      · rename_i hMemory
        exact .inr ⟨rfl, hPrep, hConfig, eq_true_of_ne_false hMemory⟩
  · rename_i hPrep
    exact .inl ⟨s.isOtaNtf, rfl, fun h => hPrep h.1⟩

theorem handOver_law {s : BleLink} (hLaw : s.HandOverLaw) (value : List UInt8) :
    (s.handOver value).HandOverLaw ↔ value.length ≤ SPP_CMD_SIZE ∧
      (s.receiveQueue.length < BLE_RECEIVE_LENGTH →
        value.length < SPP_CMD_SIZE ∨ 0 ∈ value) := by
  unfold handOver
  constructor
  · intro h
    have hFits : value.length ≤ SPP_CMD_SIZE := by
      apply h.inside
      dsimp only
      split <;> simp
    refine ⟨hFits, fun hRoom => ?_⟩
    dsimp only at h
    rw [if_pos hRoom] at h
    have hMessages := h.messages
    simp only [List.map_append, List.map_singleton, ← List.append_assoc, hLaw.messages,
      List.append_cancel_left_eq, List.cons.injEq, and_true] at hMessages
    exact (message_copy_iff hFits).mp hMessages
  · rintro ⟨hFits, hTerminated⟩
    dsimp only
    split
    · rename_i hRoom
      refine ⟨?_, ?_⟩
      · exact List.forall_mem_append.mpr ⟨hLaw.inside, List.forall_mem_singleton.mpr hFits⟩
      · simp only [List.map_append, List.map_singleton, ← List.append_assoc, hLaw.messages,
          (message_copy_iff hFits).mpr (hTerminated hRoom)]
    · exact ⟨List.forall_mem_append.mpr ⟨hLaw.inside, List.forall_mem_singleton.mpr hFits⟩,
        hLaw.messages⟩

theorem receive_law {s : BleLink} (hLaw : s.HandOverLaw) : s.receive.HandOverLaw := by
  unfold receive
  split
  · exact hLaw
  · rename_i buffer rest hQueue
    refine ⟨hLaw.inside, ?_⟩
    rw [← hLaw.messages, hQueue, List.map_cons, List.append_assoc, List.singleton_append]

/-- Along a run every write is handed over as it is if and only if every value that is copied is
shorter than the buffer, or fills it and has a NUL. -/
theorem handOverLaw_iff (events : List BleEvent) :
    Always step HandOverLaw boot events ↔ Along step HandOverSafe boot events := by
  refine always_iff_along (J := fun _ => True) (fun _ _ _ => trivial) (fun s a _ hLaw => ?_) trivial
    ⟨List.forall_mem_nil _, rfl⟩
  cases a with
  | receive => exact iff_of_true (receive_law hLaw) trivial
  | write w allocated =>
    obtain ⟨ntf, hNext, hOther⟩ | ⟨hNext, hPrep, hConfig, hMemory⟩ := gattsWrite_cases w allocated s
    · refine iff_of_true ?_ fun hPrep hConfig hMemory =>
        absurd ⟨hPrep, hConfig, hMemory⟩ hOther
      rw [step, hNext]
      exact ⟨hLaw.inside, hLaw.messages⟩
    · rw [step, hNext, handOver_law hLaw, HandOverSafe, forall_prop_of_true hPrep,
        forall_prop_of_true hConfig, forall_prop_of_true hMemory]

def longWrite : GattWrite where
  value := List.replicate 251 0x41
  charCfg := false
  isPrep := false
  admitted := by
    rw [List.length_replicate]
    decide

theorem long_write_overrun : ¬ Always step HandOverLaw boot [.write longWrite true] := by
  intro h
  have hLength : longWrite.value.length = 251 := List.length_replicate
  have hCopied : 251 ∈ (run step boot [.write longWrite true]).copies :=
    List.mem_singleton.mpr hLength.symm
  exact absurd (h.last.inside 251 hCopied) (by decide)

end BleLink

end FcomGateway
