import Mathlib.Data.Nat.Basic
import Mathlib.Data.UInt

/-! # Numbers in continued bytes

A number is written in base 128, the least digit first, and every byte but the last one has its
top bit set. Such bytes end themselves, so anything may follow them.
-/

namespace Varint

def encode (n : Nat) : List UInt8 :=
  if n < 128 then [UInt8.ofNat n] else UInt8.ofNat (n % 128 + 128) :: encode (n / 128)

/-- The bytes at the front, up to the first one without the bit. -/
def front : List UInt8 → List UInt8
  | [] => []
  | b :: rest => if b < 128 then [b] else b :: front rest

def value : List UInt8 → Nat
  | [] => 0
  | b :: rest => b.toNat % 128 + 128 * value rest

/-- The last byte, and no other one, is without the bit. -/
def Complete : List UInt8 → Prop
  | [] => False
  | b :: rest => if b < 128 then rest = [] else Complete rest

theorem encode_of_lt {n : Nat} (h : n < 128) : encode n = [UInt8.ofNat n] := by
  rw [encode, if_pos h]

theorem encode_of_le {n : Nat} (h : 128 ≤ n) :
    encode n = UInt8.ofNat (n % 128 + 128) :: encode (n / 128) := by
  rw [encode, if_neg (Nat.not_lt.mpr h)]

theorem toNat_digit {n : Nat} (h : n < 256) : (UInt8.ofNat n).toNat = n := by
  rw [UInt8.toNat_ofNat', Nat.mod_eq_of_lt h]

theorem lt_of_digit {n : Nat} (h : n < 128) : UInt8.ofNat n < 128 := by
  rw [UInt8.lt_iff_toNat_lt, toNat_digit (by omega)]
  exact h

theorem not_lt_of_continued (n : Nat) : ¬ UInt8.ofNat (n % 128 + 128) < 128 := by
  rw [UInt8.lt_iff_toNat_lt, toNat_digit (by omega)]
  exact Nat.not_lt.mpr (Nat.le_add_left 128 _)

theorem encode_ne_nil (n : Nat) : encode n ≠ [] := by
  rw [encode]
  split <;> exact List.cons_ne_nil _ _

theorem encode_complete (n : Nat) : Complete (encode n) := by
  induction n using encode.induct with
  | case1 n hSmall =>
    rw [encode_of_lt hSmall, Complete, if_pos (lt_of_digit hSmall)]
  | case2 n hLarge ih =>
    rw [encode_of_le (Nat.not_lt.mp hLarge), Complete, if_neg (not_lt_of_continued n)]
    exact ih

theorem value_encode (n : Nat) : value (encode n) = n := by
  induction n using encode.induct with
  | case1 n hSmall =>
    rw [encode_of_lt hSmall, value, value, toNat_digit (by omega)]
    omega
  | case2 n hLarge ih =>
    rw [encode_of_le (Nat.not_lt.mp hLarge), value, toNat_digit (by omega), ih]
    omega

theorem encode_length_le {n k : Nat} (h : n < 128 ^ (k + 1)) : (encode n).length ≤ k + 1 := by
  induction k generalizing n with
  | zero =>
    rw [encode_of_lt (by simpa using h)]
    exact le_rfl
  | succ k ih =>
    by_cases hSmall : n < 128
    · rw [encode_of_lt hSmall]
      exact Nat.succ_le_succ (Nat.zero_le _)
    · have hNext : n / 128 < 128 ^ (k + 1) := by
        rw [Nat.pow_succ] at h
        exact Nat.div_lt_of_lt_mul (by rwa [Nat.mul_comm])
      rw [encode_of_le (Nat.not_lt.mp hSmall), List.length_cons]
      exact Nat.succ_le_succ (ih hNext)

theorem Complete.getD_lt {bytes : List UInt8} (h : Complete bytes) {i : Nat}
    (hi : i < bytes.length) : bytes.getD i 0 < 128 ↔ i + 1 = bytes.length := by
  induction bytes generalizing i with
  | nil => exact h.elim
  | cons b bytes ih =>
    rw [Complete] at h
    rw [List.length_cons] at hi ⊢
    split at h
    · subst h
      rw [List.length_nil] at hi ⊢
      obtain rfl : i = 0 := by omega
      exact iff_of_true ‹_› rfl
    · cases i with
      | zero =>
        have hSome : bytes ≠ [] := by
          rintro rfl
          exact h
        have hPos := List.length_pos_iff.mpr hSome
        rw [List.getD_cons_zero]
        exact iff_of_false ‹_› (by omega)
      | succ i =>
        rw [List.getD_cons_succ, ih h (by omega)]
        omega

theorem front_append {bytes : List UInt8} (h : Complete bytes) (rest : List UInt8) :
    front (bytes ++ rest) = bytes := by
  induction bytes with
  | nil => exact h.elim
  | cons b bytes ih =>
    rw [Complete] at h
    rw [List.cons_append, front]
    split at h
    · rw [if_pos ‹_›, h]
    · rw [if_neg ‹_›, ih h]

/-- Bytes that are cut off go on to the end. -/
theorem front_take {bytes : List UInt8} (h : Complete bytes) {k : Nat} (hk : k < bytes.length) :
    front (bytes.take k) = bytes.take k := by
  induction bytes generalizing k with
  | nil => exact h.elim
  | cons b bytes ih =>
    cases k with
    | zero => rfl
    | succ k =>
      rw [Complete] at h
      rw [List.length_cons] at hk
      rw [List.take_succ_cons, front]
      split at h
      · rw [h, List.length_nil] at hk
        omega
      · rw [if_neg ‹_›, ih h (by omega)]

/-- A number is read from its bytes, whatever follows them. -/
theorem value_front_encode (n : Nat) (rest : List UInt8) :
    value (front (encode n ++ rest)) = n := by
  rw [front_append (encode_complete n), value_encode]

end Varint
