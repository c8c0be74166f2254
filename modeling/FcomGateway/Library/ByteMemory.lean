import Mathlib.Data.List.GetD
import Mathlib.Data.List.TakeWhile

/-! # Texts in a memory

A memory gives every address a cell. A text is written with the zero that ends it, and read up to
the first zero or the end of the field that it lies in.
-/

namespace ByteMemory

universe u

variable {α : Type u} [Zero α]

/-- The memory after the cells of a text and the zero behind them were written. -/
def writeText (m : Nat → α) (offset : Nat) (text : List α) : Nat → α := fun j =>
  if offset ≤ j ∧ j ≤ offset + text.length then text.getD (j - offset) 0 else m j

def window (m : Nat → α) (offset size : Nat) : List α :=
  (List.range size).map fun k => m (offset + k)

variable {m m' : Nat → α} {offset size : Nat} {text : List α}

theorem writeText_outside {j : Nat} (h : j < offset ∨ offset + text.length < j) :
    writeText m offset text j = m j :=
  if_neg (by omega)

theorem writeText_text {k : Nat} (h : k < text.length) :
    writeText m offset text (offset + k) = text[k] := by
  rw [writeText, if_pos (by omega), Nat.add_sub_cancel_left, List.getD_eq_getElem _ _ h]

theorem writeText_end : writeText m offset text (offset + text.length) = 0 := by
  rw [writeText, if_pos (by omega), Nat.add_sub_cancel_left, List.getD_eq_default _ _ le_rfl]

omit [Zero α]

@[simp] theorem window_length : (window m offset size).length = size := by
  rw [window, List.length_map, List.length_range]

theorem window_zero : window m offset 0 = [] := rfl

theorem window_succ : window m offset (size + 1) = m offset :: window m (offset + 1) size := by
  rw [window, List.range_succ_eq_map, List.map_cons, List.map_map, window]
  refine congrArg _ (List.map_congr_left fun k _ => ?_)
  rw [Function.comp_apply, Nat.succ_eq_add_one, Nat.add_assoc, Nat.add_comm 1]

theorem window_add (first second : Nat) : window m offset (first + second) =
    window m offset first ++ window m (offset + first) second := by
  rw [window, List.range_add, List.map_append, List.map_map, window, window]
  refine congrArg _ (List.map_congr_left fun k _ => ?_)
  rw [Function.comp_apply, Nat.add_assoc]

theorem window_eq_iff :
    window m offset size = window m' offset size ↔
      ∀ k < size, m (offset + k) = m' (offset + k) := by
  rw [window, window, List.map_inj_left]
  exact forall_congr' fun k => by rw [List.mem_range]

theorem window_eq_text (h : ∀ k (hk : k < text.length), m (offset + k) = text[k]) :
    window m offset text.length = text := by
  refine List.ext_getElem window_length fun k hk hText => ?_
  rw [← h k hText]
  simp [window]

/-- A text written behind what a window shows. -/
theorem window_writeText [Zero α] (m : Nat → α) (offset size : Nat) (text : List α) :
    window (writeText m (offset + size) text) offset (size + text.length) =
      window m offset size ++ text := by
  rw [window_add, window_eq_text fun k hk => writeText_text hk]
  refine congrArg (· ++ text) (window_eq_iff.mpr fun k hk => ?_)
  exact writeText_outside (.inl (by omega))

/-- A text that fits is read again where its zero or the end of the field is. -/
theorem takeWhile_window [Zero α] [DecidableEq α] (hFits : text.length ≤ size)
    (hText : ∀ k (hk : k < text.length), m (offset + k) = text[k])
    (hEnd : text.length < size → m (offset + text.length) = 0) (hNonzero : ∀ b ∈ text, b ≠ 0) :
    (window m offset size).takeWhile (fun b => decide (b ≠ 0)) = text := by
  obtain ⟨room, rfl⟩ := Nat.exists_eq_add_of_le hFits
  rw [window_add, window_eq_text hText,
    List.takeWhile_append_of_pos fun b hb => decide_eq_true (hNonzero b hb)]
  cases room with
  | zero => rw [window_zero, List.takeWhile_nil, List.append_nil]
  | succ room =>
    rw [window_succ, hEnd (by omega), List.takeWhile_cons_of_neg (by simp), List.append_nil]

end ByteMemory
