import FcomGateway.GwJob

/-! # Lines from the modem

The handlers of `sim800.c` and `esp_modem_dce_service.c`: a line is a result code, or else a text
that some of them store. A line is the C string in the buffer of `esp_dte_handle_line`. An access
outside of an array has no defined outcome and is `none`.
-/

namespace FcomGateway.Modem

/-! ## Result codes -/

inductive ModemState
  | processing
  | success
  | fail
  deriving DecidableEq, Repr

def strstr (line : List UInt8) (code : String) : Bool := decide (literal code <:+: line)

inductive LineHandler
  | handleResponseDefault
  | handleCsq
  | handleCbc
  | handleExitDataMode
  | handleAtdPpp
  | handleCgmm
  | handleCgsn
  | handleCimi
  | handleCops
  | handlePowerDown
  deriving DecidableEq, Repr

def resultCode (line : List UInt8) : Option ModemState :=
  if strstr line "OK" then some .success
  else if strstr line "ERROR" then some .fail
  else none

/-- The state that a handler calls `esp_modem_process_command_done` with. -/
def LineHandler.result (line : List UInt8) : LineHandler → Option ModemState
  | handleExitDataMode =>
    if strstr line "OK" then some .success
    else if strstr line "NO CARRIER" then some .success
    else if strstr line "ERROR" then some .fail
    else none
  | handleAtdPpp =>
    if strstr line "CONNECT" then some .success
    else if strstr line "ERROR" then some .fail
    else none
  | handlePowerDown => if strstr line "POWER DOWN" then some .success else none
  | _ => resultCode line

/-! ## Arrays -/

structure CharArray (size : Nat) where
  bytes : List UInt8
  length_eq : bytes.length = size

namespace CharArray

variable {size : Nat}

def terminate (array : CharArray size) (i : Nat) : CharArray size where
  bytes := array.bytes.set i 0
  length_eq := List.length_set.trans array.length_eq

def printed (size : Nat) (bytes text : List UInt8) : List UInt8 :=
  (text.take (size - 1) ++ 0 :: bytes.drop (min (size - 1) text.length + 1)).take size

theorem printed_length (array : CharArray size) (text : List UInt8) :
    (printed size array.bytes text).length = size := by
  have hSize := array.length_eq
  rw [printed, List.length_take, List.length_append, List.length_take, List.length_cons,
    List.length_drop]
  omega

def snprintf (array : CharArray size) (text : List UInt8) : CharArray size where
  bytes := printed size array.bytes text
  length_eq := array.printed_length text

/-- `len` is what `snprintf` returns, the length of the whole text. -/
def stripCrLfTail (str : CharArray size) (len : Nat) : Option (CharArray size) :=
  str.bytes[len - 2]?.bind fun c =>
    if c = 0x0D then some (str.terminate (len - 2))
    else str.bytes[len - 1]?.map fun c => if c = 0x0D then str.terminate (len - 1) else str

/-- Whether the line was stored as well. -/
def store (array : CharArray size) (line : List UInt8) : Option (CharArray size × Bool) :=
  if line.length > 2 then
    ((array.snprintf line).stripCrLfTail line.length).map fun array => (array, true)
  else some (array.snprintf line, false)

def text (array : CharArray size) : List UInt8 := cString array.bytes

/-! ## What is stored -/

variable {array : CharArray size} {line : List UInt8}

theorem snprintf_bytes (array : CharArray size) (hRoom : line.length < size) :
    (array.snprintf line).bytes = line ++ 0 :: array.bytes.drop (line.length + 1) := by
  have hSize := array.length_eq
  have hShort : min (size - 1) line.length = line.length := by omega
  change printed size array.bytes line = _
  rw [printed, hShort, List.take_of_length_le (by omega : line.length ≤ size - 1),
    List.take_of_length_le]
  rw [List.length_append, List.length_cons, List.length_drop]
  omega

theorem snprintf_last (array : CharArray size) (hSize : 0 < size) (hLong : size ≤ line.length) :
    (array.snprintf line).bytes = line.take (size - 1) ++ [0] := by
  have hLength := array.length_eq
  have hCut : min (size - 1) line.length = size - 1 := by omega
  change printed size array.bytes line = _
  rw [printed, hCut, List.drop_eq_nil_of_le (by omega), List.take_of_length_le]
  rw [List.length_append, List.length_take, List.length_singleton]
  omega

theorem stripCrLfTail_isSome {str : CharArray size} {len : Nat} (hLen : 2 < len) :
    (str.stripCrLfTail len).isSome = true ↔
      len ≤ size ∨ len = size + 1 ∧ str.bytes[len - 2]? = some 0x0D := by
  have hSize := str.length_eq
  rw [stripCrLfTail]
  by_cases hFirst : len - 2 < size
  · have hRead := List.getElem?_eq_getElem (hSize.symm ▸ hFirst : len - 2 < str.bytes.length)
    rw [hRead, Option.bind_some, Option.some_inj]
    split
    · rename_i hCr
      exact iff_of_true rfl
        (Or.imp_right (fun hNext => ⟨hNext, hCr⟩) (by omega : len ≤ size ∨ len = size + 1))
    · rename_i hOther
      rw [Option.isSome_map, ← Option.ne_none_iff_isSome, Ne, List.getElem?_eq_none_iff]
      constructor
      · intro hSecond
        exact .inl (by omega)
      · rintro (hInside | ⟨-, hCr⟩)
        · omega
        · exact absurd hCr hOther
  · rw [List.getElem?_eq_none (by omega)]
    refine iff_of_false Bool.false_ne_true ?_
    rintro (hInside | ⟨-, hCr⟩)
    · omega
    · cases hCr

theorem store_isSome (array : CharArray size) (hSize : 2 ≤ size) (line : List UInt8) :
    (array.store line).isSome = true ↔ line.length ≤ size := by
  rw [store]
  split
  · rename_i hLen
    rw [Option.isSome_map, stripCrLfTail_isSome hLen, or_iff_left]
    rintro ⟨hNext, hCr⟩
    have hPlace : (line.take (size - 1)).length = line.length - 2 := by
      rw [List.length_take]
      omega
    rw [snprintf_last array (by omega) (by omega), ← hPlace, List.getElem?_concat_length] at hCr
    cases hCr
  · rename_i hLen
    exact iff_of_true rfl (by omega)

theorem cString_terminated {bytes before : List UInt8} (hBefore : ∀ b ∈ before, b ≠ 0)
    (rest : List UInt8) (h : bytes = before ++ 0 :: rest) : cString bytes = before := by
  rw [h, cString, List.takeWhile_append_of_pos fun b hb => decide_eq_true (hBefore b hb),
    List.takeWhile_cons_of_neg (by decide), List.append_nil]

/-- What an answer that ends with CR LF leaves in an array that has room for it. -/
theorem store_answer (array : CharArray size) {answer : List UInt8}
    (hAnswer : ∀ b ∈ answer, b ≠ 0) (hSome : answer ≠ [])
    (hRoom : answer.length + 2 < size) :
    ∃ stored, array.store (answer ++ [0x0D, 0x0A]) = some (stored, true) ∧
      stored.text = answer := by
  have hPos := List.length_pos_iff.mpr hSome
  have hLength : (answer ++ [0x0D, 0x0A]).length = answer.length + 2 := List.length_append
  have hRoomLine : (answer ++ [0x0D, 0x0A]).length < size := by omega
  have hBytes := snprintf_bytes array hRoomLine
  rw [List.append_assoc] at hBytes
  have hCr : (array.snprintf (answer ++ [0x0D, 0x0A])).bytes[answer.length]? = some 0x0D := by
    rw [hBytes, List.getElem?_append_right le_rfl, Nat.sub_self]
    rfl
  refine ⟨(array.snprintf (answer ++ [0x0D, 0x0A])).terminate answer.length, ?_, ?_⟩
  · rw [store, hLength, if_pos (by omega), stripCrLfTail, Nat.add_sub_cancel, hCr]
    rfl
  · change cString ((array.snprintf (answer ++ [0x0D, 0x0A])).bytes.set answer.length 0) = answer
    rw [hBytes, List.set_append_right _ _ le_rfl, Nat.sub_self]
    exact cString_terminated hAnswer _ rfl

end CharArray

/-! ## Handlers -/

def MODEM_IMEI_LENGTH : Nat := 15

def MODEM_IMSI_LENGTH : Nat := 15

def MODEM_MAX_NAME_LENGTH : Nat := 32

def MODEM_MAX_OPERATOR_LENGTH : Nat := 32

structure DceTexts where
  imei : CharArray (MODEM_IMEI_LENGTH + 1)
  imsi : CharArray (MODEM_IMSI_LENGTH + 1)
  name : CharArray MODEM_MAX_NAME_LENGTH
  oper : CharArray MODEM_MAX_OPERATOR_LENGTH

/-- `strtok_r` with commas between the tokens -/
def strtokComma (s : List UInt8) : List (List UInt8) :=
  (s.splitOn 0x2C).filter fun token => !token.isEmpty

/-- The pointers to the tokens and the `NULL` behind the last one have five places. -/
def storeOperator (line : List UInt8) (d : DceTexts) : Option (DceTexts × Bool) :=
  let p := strtokComma line
  if 5 ≤ p.length then none
  else if p.length < 3 then some (d, false)
  else (d.oper.store ((p[2]?).getD [])).map fun stored => ({ d with oper := stored.1 }, stored.2)

/-- What a handler does with a line that is no result code, and whether it returns `ESP_OK`. -/
def LineHandler.storeLine (line : List UInt8) (d : DceTexts) :
    LineHandler → Option (DceTexts × Bool)
  | handleCgmm => (d.name.store line).map fun stored => ({ d with name := stored.1 }, stored.2)
  | handleCgsn => (d.imei.store line).map fun stored => ({ d with imei := stored.1 }, stored.2)
  | handleCimi => (d.imsi.store line).map fun stored => ({ d with imsi := stored.1 }, stored.2)
  | handleCops =>
    if literal "+COPS" <+: line then storeOperator line d else some (d, false)
  | handleCsq => some (d, decide (literal "+CSQ" <+: line))
  | handleCbc => some (d, decide (literal "+CBC" <+: line))
  | handleResponseDefault | handleExitDataMode | handleAtdPpp | handlePowerDown => some (d, false)

def LineHandler.Holds (line : List UInt8) : LineHandler → Prop
  | handleCgmm => line.length ≤ MODEM_MAX_NAME_LENGTH
  | handleCgsn => line.length ≤ MODEM_IMEI_LENGTH + 1
  | handleCimi => line.length ≤ MODEM_IMSI_LENGTH + 1
  | handleCops => literal "+COPS" <+: line → (strtokComma line).length ≤ 4 ∧
      ∀ oper, (strtokComma line)[2]? = some oper → oper.length ≤ MODEM_MAX_OPERATOR_LENGTH
  | _ => True

theorem storeOperator_isSome (line : List UInt8) (d : DceTexts) :
    (storeOperator line d).isSome = true ↔ (strtokComma line).length ≤ 4 ∧
      ∀ oper, (strtokComma line)[2]? = some oper → oper.length ≤ MODEM_MAX_OPERATOR_LENGTH := by
  rw [storeOperator]
  generalize strtokComma line = p
  split
  · rename_i hMany
    exact iff_of_false Bool.false_ne_true fun h => by omega
  · rename_i hFew
    rw [and_iff_right (by omega)]
    split
    · rename_i hShort
      refine iff_of_true rfl fun oper hOper => ?_
      rw [List.getElem?_eq_none (by omega)] at hOper
      cases hOper
    · rename_i hThree
      obtain ⟨oper, hOper⟩ : ∃ oper, p[2]? = some oper :=
        ⟨_, List.getElem?_eq_getElem (by omega)⟩
      rw [Option.isSome_map, hOper, Option.getD_some, CharArray.store_isSome d.oper (by decide)]
      constructor
      · rintro hFits _ ⟨⟩
        exact hFits
      · exact fun h => h oper rfl

/-- A handler stays inside of its arrays exactly on these lines. -/
theorem storeLine_isSome (h : LineHandler) (line : List UInt8) (d : DceTexts) :
    (h.storeLine line d).isSome = true ↔ h.Holds line := by
  cases h with
  | handleCgmm | handleCgsn | handleCimi =>
    rw [LineHandler.storeLine, Option.isSome_map]
    exact CharArray.store_isSome _ (by decide) line
  | handleCops =>
    rw [LineHandler.storeLine, LineHandler.Holds]
    split
    · rename_i hCops
      rw [storeOperator_isSome]
      exact ⟨fun h _ => h, fun h => h hCops⟩
    · rename_i hOther
      exact iff_of_true rfl fun hCops => absurd hCops hOther
  | handleResponseDefault | handleCsq | handleCbc | handleExitDataMode | handleAtdPpp
    | handlePowerDown => exact iff_of_true rfl trivial

/-- The answers with the digits of an identity and CR LF are one byte too long for the arrays of
these digits. -/
theorem identity_outside {digits : List UInt8} (hDigits : digits.length = 15) (d : DceTexts)
    (h : LineHandler) (hIdentity : h = .handleCgsn ∨ h = .handleCimi) :
    h.storeLine (digits ++ [0x0D, 0x0A]) d = none := by
  have hLength : (digits ++ [0x0D, 0x0A]).length = 17 := by
    rw [List.length_append, hDigits]
    rfl
  rw [← Option.not_isSome_iff_eq_none, storeLine_isSome]
  rcases hIdentity with rfl | rfl
  · rw [LineHandler.Holds, hLength]
    decide
  · rw [LineHandler.Holds, hLength]
    decide

end FcomGateway.Modem
