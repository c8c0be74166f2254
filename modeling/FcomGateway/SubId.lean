import Mathlib.Data.List.GetD
import FcomGateway.GwJob
import FcomGateway.Library.HexText

/-! # Addresses as texts

`json_packet_message_sensor_data` prints the address of a detector with `%03d.%03d.%03d.%03d`; the
loops of `json_parser_gw_job` take texts of this kind apart again.
-/

namespace FcomGateway

/-! ## Printing -/

/-- `%03d` of an 8-bit value. -/
def threeDigits (b : UInt8) : List UInt8 := [0x30 + b / 100, 0x30 + b / 10 % 10, 0x30 + b % 10]

def dotted (bytes : List UInt8) : List UInt8 := [0x2E].intercalate (bytes.map threeDigits)

def subIdText (d : SensorData) (subId : UInt8) : List UInt8 :=
  dotted [d.syncCode 0, d.syncCode 1, d.syncCode 2, subId]

theorem threeDigits_byte (b : UInt8) : atoi (threeDigits b) = b.toNat ∧
    (threeDigits b).all (fun digit => digit ≠ 0 ∧ digit ≠ 0x2E) = true := by
  revert b
  exact HexText.forall_byte (by decide +kernel)

theorem atoi_threeDigits (b : UInt8) : atoi (threeDigits b) = b.toNat := (threeDigits_byte b).1

theorem mem_threeDigits {b digit : UInt8} (h : digit ∈ threeDigits b) :
    digit ≠ 0 ∧ digit ≠ 0x2E :=
  of_decide_eq_true (List.all_eq_true.mp (threeDigits_byte b).2 digit h)

theorem mem_dotted {bytes : List UInt8} {digit : UInt8} (h : digit ∈ dotted bytes) :
    digit ≠ 0 := by
  induction bytes with
  | nil => cases h
  | cons first rest ih =>
    cases rest with
    | nil =>
      rw [dotted, List.map_cons, List.map_nil, List.intercalate_singleton] at h
      exact (mem_threeDigits h).1
    | cons second rest =>
      rw [dotted, List.map_cons, List.map_cons, List.intercalate_cons_cons, ← List.map_cons,
        List.mem_append, List.mem_append] at h
      rcases h with (hFirst | hDot) | hRest
      · exact (mem_threeDigits hFirst).1
      · rw [List.mem_singleton.mp hDot]
        decide
      · exact ih hRest

theorem cString_dotted (bytes : List UInt8) : cString (dotted bytes) = dotted bytes :=
  cString_eq_self fun _ hDigit => mem_dotted hDigit

theorem strtok_dotted (bytes : List UInt8) :
    strtok (dotted bytes) = bytes.map threeDigits := by
  have hTokens : (bytes.map threeDigits).filter (fun token => !token.isEmpty) =
      bytes.map threeDigits := by
    rw [List.filter_eq_self]
    intro token hToken
    obtain ⟨b, _, rfl⟩ := List.mem_map.mp hToken
    rfl
  cases bytes with
  | nil => rfl
  | cons first rest =>
    rw [strtok, dotted, List.splitOn_intercalate, hTokens]
    · intro token hToken hDot
      obtain ⟨b, _, rfl⟩ := List.mem_map.mp hToken
      exact (mem_threeDigits hDot).2 rfl
    · exact List.cons_ne_nil _ _

/-! ## Reading -/

theorem ofInt_toNat (b : UInt8) : UInt8.ofInt b.toNat = b := by
  have hByte := b.toNat_lt
  have hBound : (b.toNat : Int) % 256 = b.toNat := by omega
  rw [UInt8.ofInt, show (2 : Int) ^ 8 = 256 from rfl, hBound, Int.toNat_natCast,
    UInt8.ofNat_toNat]

theorem syncCodeBytes_dotted (bytes : List UInt8) : syncCodeBytes (dotted bytes) = bytes := by
  rw [syncCodeBytes, cString_dotted, strtok_dotted, List.map_map]
  refine List.map_id'' (fun b => ?_) bytes
  rw [Function.comp_apply, atoi_threeDigits, ofInt_toNat]

theorem nodeOf_subIdText (d : SensorData) (subId : UInt8) :
    nodeOf (subIdText d subId) = subId.toNat := by
  rw [nodeOf, subIdText, cString_dotted, strtok_dotted]
  exact atoi_threeDigits subId

/-! ## The stores of `add_sub_devices` -/

/-- `sensor_data.sync_code[num] = byte`. Behind the three entries of the array come the bytes
`curDetector` and `maxDetector`; what is hit behind those depends on the layout. -/
def SensorData.storeSyncCode (num : Nat) (byte : UInt8) (d : SensorData) : Option SensorData :=
  if num < 3 then some { d with syncCode := Function.update d.syncCode num byte }
  else if num = 3 then some { d with curDetector := byte.toNat }
  else if num = 4 then some { d with maxDetector := byte.toNat }
  else none

/-- The loop over the tokens from the number `num` on. -/
def storeTokens : Nat → List UInt8 → SensorData → Option SensorData
  | _, [], d => some d
  | num, byte :: rest, d => (d.storeSyncCode num byte).bind (storeTokens (num + 1) rest)

/-- The indices with the bytes stored there. -/
def syncCodeStores (value : List UInt8) : List (UInt8 × Nat) := (syncCodeBytes value).zipIdx

/-- The loop writes `sync_code[0]` to `sync_code[2]` only, and a printed code is stored as it
was. -/
structure AddFrame (value : List UInt8) : Prop where
  indices : ∀ store ∈ syncCodeStores value, store.2 < 3
  frame : ∀ d : SensorData, ∃ code, storeTokens 0 (syncCodeBytes value) d =
    some { d with syncCode := code } ∧ ∀ i, 3 ≤ i → code i = d.syncCode i
  printed : ∀ first second third, value = dotted [first, second, third] →
    syncCodeStores value = [(first, 0), (second, 1), (third, 2)]

theorem storeTokens_frame {bytes : List UInt8} {num : Nat} (h : num + bytes.length ≤ 3)
    (d : SensorData) : storeTokens num bytes d = some { d with
      syncCode := fun i => if num ≤ i then bytes.getD (i - num) (d.syncCode i)
        else d.syncCode i } := by
  induction bytes generalizing num d with
  | nil => simp [storeTokens]
  | cons byte rest ih =>
    rw [List.length_cons] at h
    have hIndex : num < 3 := by omega
    rw [storeTokens, SensorData.storeSyncCode, if_pos hIndex, Option.bind_some, ih (by omega)]
    refine congrArg some ?_
    congr 1
    funext i
    rcases Nat.lt_trichotomy i num with hBelow | rfl | hAbove
    · have hOff : ¬ num ≤ i ∧ ¬ num + 1 ≤ i := by omega
      simp [hOff, Nat.ne_of_lt hBelow]
    · simp
    · obtain ⟨k, rfl⟩ : ∃ k, i = num + 1 + k := ⟨i - (num + 1), by omega⟩
      have hOn : num ≤ num + 1 + k ∧ num + 1 + k ≠ num := by omega
      have hShift : num + 1 + k - num = k + 1 := by omega
      simp [hOn, hShift]

theorem addFrame_iff (value : List UInt8) :
    AddFrame value ↔ (strtok (cString value)).length ≤ 3 := by
  have hLength : (syncCodeBytes value).length = (strtok (cString value)).length := by
    rw [syncCodeBytes, List.length_map]
  constructor
  · intro h
    by_contra hMore
    have hFourth : 3 < (syncCodeBytes value).length := by omega
    have hStore : ((syncCodeBytes value)[3], 3) ∈ syncCodeStores value := by
      rw [syncCodeStores, List.mk_mem_zipIdx_iff_getElem?]
      exact List.getElem?_eq_getElem hFourth
    have hIndex := h.indices _ hStore
    omega
  · intro hFew
    refine ⟨fun store hStore => ?_, fun d => ?_, ?_⟩
    · have hIndex := List.snd_lt_of_mem_zipIdx hStore
      omega
    · refine ⟨_, storeTokens_frame (by omega) d, fun i hi => ?_⟩
      rw [if_pos (Nat.zero_le i), Nat.sub_zero, List.getD_eq_default _ _ (by omega)]
    · rintro first second third rfl
      rw [syncCodeStores, syncCodeBytes_dotted]
      rfl

theorem fourth_token_stored : ¬ AddFrame (literal "1.2.3.4") := by
  intro h
  have hIndex := h.indices (4, 3) (by decide)
  revert hIndex
  decide

/-- On texts of at most three tokens the loop is the update that `add_sub_devices` stands for. -/
theorem storeTokens_run {value : List UInt8} (h : (JobCommand.addSubDevices
    (syncCodeBytes value)).Fits) (s : JobState) :
    storeTokens 0 (syncCodeBytes value) s.gateway.sensorData =
      some (JobCommand.run s (.addSubDevices (syncCodeBytes value))).gateway.sensorData := by
  have hBound : 0 + (syncCodeBytes value).length ≤ 3 := by
    rw [Nat.zero_add]
    exact h
  rw [storeTokens_frame hBound]
  refine congrArg some ?_
  rw [JobCommand.run, addSubDevices]
  dsimp only [xQueueSend]
  congr 1
  funext i
  rw [if_pos (Nat.zero_le i), Nat.sub_zero]
  split
  · rfl
  · exact List.getD_eq_default _ _ (by omega)

end FcomGateway
