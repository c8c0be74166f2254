import Mathlib.Data.List.Basic

/-! # Bytes as hexadecimal texts

A byte is written as two lower-case digits, the high one first. Reading takes the letters of both
cases.
-/

namespace HexText

def IsHexDigit (c : UInt8) : Prop :=
  0x30 ≤ c ∧ c ≤ 0x39 ∨ 0x41 ≤ c ∧ c ≤ 0x46 ∨ 0x61 ≤ c ∧ c ≤ 0x66

instance (c : UInt8) : Decidable (IsHexDigit c) := inferInstanceAs (Decidable (_ ∨ _ ∨ _))

/-- The value of a digit; other characters have none, and give 0. -/
def hexValue (c : UInt8) : Nat :=
  if 0x30 ≤ c ∧ c ≤ 0x39 then c.toNat - 0x30
  else if 0x41 ≤ c ∧ c ≤ 0x46 then c.toNat - 0x41 + 10
  else if 0x61 ≤ c ∧ c ≤ 0x66 then c.toNat - 0x61 + 10
  else 0

def lowerDigit (c : UInt8) : UInt8 := if 0x41 ≤ c ∧ c ≤ 0x5A then c + 0x20 else c

def hexDigit (value : Nat) : UInt8 :=
  if value < 10 then UInt8.ofNat (0x30 + value) else UInt8.ofNat (0x57 + value)

def byteDigits (b : UInt8) : List UInt8 := [hexDigit (b.toNat / 16), hexDigit (b.toNat % 16)]

def hexText (bytes : List UInt8) : List UInt8 := bytes.flatMap byteDigits

/-- The values of the digits, two by two. -/
def hexBytes : List UInt8 → List Nat
  | high :: low :: rest => (16 * hexValue high + hexValue low) :: hexBytes rest
  | _ => []

/-! ## One digit -/

/-- A fact about bytes that is checked value by value. -/
theorem forall_byte {P : UInt8 → Prop} (h : ∀ n : Fin 256, P (UInt8.ofNat n)) (b : UInt8) :
    P b := by
  have hByte := h ⟨b.toNat, b.toNat_lt⟩
  rwa [UInt8.ofNat_toNat] at hByte

theorem hexDigit_value {value : Nat} (h : value < 16) :
    IsHexDigit (hexDigit value) ∧ hexValue (hexDigit value) = value := by
  have allValues : ∀ v : Fin 16, IsHexDigit (hexDigit v) ∧ hexValue (hexDigit v) = v := by decide
  exact allValues ⟨value, h⟩

theorem value_hexDigit {c : UInt8} (h : IsHexDigit c) :
    hexValue c < 16 ∧ hexDigit (hexValue c) = lowerDigit c := by
  have allDigits : ∀ c : UInt8, IsHexDigit c →
      hexValue c < 16 ∧ hexDigit (hexValue c) = lowerDigit c := forall_byte (by decide +kernel)
  exact allDigits c h

/-! ## Texts -/

theorem hexText_cons (b : UInt8) (bytes : List UInt8) :
    hexText (b :: bytes) = hexDigit (b.toNat / 16) :: hexDigit (b.toNat % 16) :: hexText bytes :=
  rfl

theorem hexText_length (bytes : List UInt8) : (hexText bytes).length = 2 * bytes.length := by
  induction bytes with
  | nil => rfl
  | cons b bytes ih =>
    rw [hexText_cons, List.length_cons, List.length_cons, ih, List.length_cons]
    omega

theorem hexText_digits {bytes : List UInt8} {c : UInt8} (h : c ∈ hexText bytes) :
    IsHexDigit c := by
  obtain ⟨b, _, hc⟩ := List.mem_flatMap.mp h
  have hLow : b.toNat % 16 < 16 := Nat.mod_lt _ (by decide)
  have hHigh : b.toNat / 16 < 16 := by
    have hByte := b.toNat_lt
    omega
  simp only [byteDigits, List.mem_cons, List.not_mem_nil, or_false] at hc
  obtain rfl | rfl := hc
  · exact (hexDigit_value hHigh).1
  · exact (hexDigit_value hLow).1

theorem hexBytes_hexText (bytes : List UInt8) :
    hexBytes (hexText bytes) = bytes.map UInt8.toNat := by
  induction bytes with
  | nil => rfl
  | cons b bytes ih =>
    have hByte := b.toNat_lt
    rw [hexText_cons, hexBytes, ih, (hexDigit_value (by omega)).2, (hexDigit_value (by omega)).2,
      Nat.div_add_mod, List.map_cons]

/-- Digits that were read are written again in lower case. -/
theorem hexText_hexBytes {bytes : List UInt8} {digits : List UInt8}
    (hDigits : ∀ c ∈ digits, IsHexDigit c) (hLength : digits.length = 2 * bytes.length)
    (hBytes : bytes.map UInt8.toNat = hexBytes digits) :
    hexText bytes = digits.map lowerDigit := by
  induction bytes generalizing digits with
  | nil =>
    rw [List.eq_nil_of_length_eq_zero hLength]
    rfl
  | cons b bytes ih =>
    match digits with
    | [] => cases hLength
    | [_] =>
      rw [List.length_cons, List.length_cons, List.length_nil] at hLength
      omega
    | high :: low :: rest =>
      rw [List.forall_mem_cons, List.forall_mem_cons] at hDigits
      obtain ⟨hHigh, hLow, hRest⟩ := hDigits
      obtain ⟨hHighValue, hHighDigit⟩ := value_hexDigit hHigh
      obtain ⟨hLowValue, hLowDigit⟩ := value_hexDigit hLow
      rw [List.map_cons, hexBytes, List.cons.injEq] at hBytes
      have hCount : rest.length = 2 * bytes.length := by
        rw [List.length_cons, List.length_cons, List.length_cons] at hLength
        omega
      have hDiv : b.toNat / 16 = hexValue high := by omega
      have hMod : b.toNat % 16 = hexValue low := by omega
      rw [hexText_cons, hDiv, hMod, hHighDigit, hLowDigit, ih hRest hCount hBytes.2]
      rfl

end HexText
