import Mathlib.Data.List.GetD
import FcomGateway.CJson
import FcomGateway.RfLink

/-! # The receive buffer of the RF task

`sensor_data_handler` allocates `RD_BUF_SIZE` bytes and reads as many as the driver announces. Its
loop looks up to three bytes ahead; `&&` stops at the first byte that does not fit.
-/

namespace FcomGateway

open CJson

def RD_BUF_SIZE : Nat := 1024

/-- The receive ring of the driver, `BUFF_SIZE * 2`. -/
def UART_RING_SIZE : Nat := 2 * 1024

/-- A `UART_DATA` event with what `uart_read_bytes` delivers of it. -/
structure UartData where
  size : Nat
  received : List UInt8
  ring : size ≤ UART_RING_SIZE
  delivered : received.length ≤ size

/-! ## The indices that a call uses -/

/-- The indices read by comparisons that are joined by `&&`. -/
def comparedIndices (dtmp : List UInt8) : List (Nat × UInt8) → List Nat
  | [] => []
  | (i, b) :: rest => i :: if byteAt dtmp i = b then comparedIndices dtmp rest else []

def requestReads (dtmp : List UInt8) (i : Nat) : List Nat :=
  comparedIndices dtmp [(i, 0x4E), (i + 1, 0x30), (i + 2, 0x30), (i + 3, 0x7D)]

/-- The address is read only where the letter and the brace fit. -/
def reportReads (letter : Report) (dtmp : List UInt8) (i : Nat) : List Nat :=
  comparedIndices dtmp [(i, letter.letter), (i + 3, 0x7D)] ++
    if byteAt dtmp i = letter.letter ∧ byteAt dtmp (i + 3) = 0x7D then [i + 1, i + 2] else []

def roundReads (dtmp : List UInt8) (i : Nat) : List Nat :=
  requestReads dtmp i ++ reportReads .F dtmp i ++ reportReads .L dtmp i ++
    reportReads .E dtmp i ++ reportReads .T dtmp i

/-- The bytes received and the terminator are written, the log prints the text and the bytes, the
loop reads. `bzero` before and `malloc` have the size of the buffer. -/
def bufferAccesses (dtmp : List UInt8) : List Nat :=
  if 0 < dtmp.length then
    List.range dtmp.length ++ [dtmp.length] ++
      List.range ((cString dtmp).length + 1) ++ List.range dtmp.length ++ [0] ++
      if byteAt dtmp 0 = 0x7B then (List.range dtmp.length).flatMap (roundReads dtmp) else []
  else []

def BufferLaw (data : UartData) : Prop :=
  ∀ index ∈ bufferAccesses data.received, index < RD_BUF_SIZE

/-- The terminator fits, and no letter of a report stands in the last three bytes of the
buffer. -/
def BufferSafe (data : UartData) : Prop :=
  data.received.length < RD_BUF_SIZE ∧ (byteAt data.received 0 = 0x7B →
    ∀ b ∈ data.received.drop (RD_BUF_SIZE - 3), reportOf b = none)

/-! ## The indices of a round -/

section Round

variable {dtmp dtmp' : List UInt8} {i : Nat}

/-- Behind the text the buffer is cleared. -/
theorem lt_length_of_byteAt (h : byteAt dtmp i ≠ 0) : i < dtmp.length := by
  by_contra hEnd
  exact h (List.getD_eq_default _ _ (by omega))

theorem requestReads_bound (hi : i < dtmp.length) (hFits : dtmp.length < RD_BUF_SIZE) :
    ∀ j ∈ requestReads dtmp i, j < RD_BUF_SIZE := by
  have hSecond : byteAt dtmp (i + 1) = 0x30 → i + 1 < dtmp.length := fun h =>
    lt_length_of_byteAt (by rw [h]; decide)
  have hThird : byteAt dtmp (i + 2) = 0x30 → i + 2 < dtmp.length := fun h =>
    lt_length_of_byteAt (by rw [h]; decide)
  intro j hj
  simp only [requestReads, comparedIndices, List.mem_cons, List.mem_ite_nil_right,
    List.not_mem_nil, and_false, or_false] at hj
  obtain rfl | ⟨_, rfl | ⟨hOne, rfl | ⟨hTwo, rfl⟩⟩⟩ := hj
  · omega
  · omega
  · have hBelow := hSecond hOne
    omega
  · have hBelow := hThird hTwo
    omega

theorem reportReads_bound (letter : Report) (hi : i < RD_BUF_SIZE) :
    (∀ j ∈ reportReads letter dtmp i, j < RD_BUF_SIZE) ↔
      (byteAt dtmp i = letter.letter → i + 3 < RD_BUF_SIZE) := by
  simp only [reportReads, comparedIndices, List.mem_append, List.mem_cons,
    List.mem_ite_nil_right, List.not_mem_nil, and_false, or_false]
  constructor
  · intro h hLetter
    exact h (i + 3) (.inl (.inr ⟨hLetter, rfl⟩))
  · rintro h j ((rfl | ⟨hLetter, rfl⟩) | ⟨⟨hLetter, _⟩, rfl | rfl⟩)
    · exact hi
    all_goals
      have hBelow := h hLetter
      omega

theorem roundReads_bound (hi : i < dtmp.length) (hFits : dtmp.length < RD_BUF_SIZE) :
    (∀ j ∈ roundReads dtmp i, j < RD_BUF_SIZE) ↔
      (reportOf (byteAt dtmp i) ≠ none → i + 3 < RD_BUF_SIZE) := by
  have hIndex : i < RD_BUF_SIZE := hi.trans hFits
  have hRequest := requestReads_bound hi hFits
  simp only [roundReads, List.forall_mem_append, reportReads_bound _ hIndex,
    iff_true_intro hRequest, true_and]
  constructor
  · rintro ⟨⟨⟨hF, hL⟩, hE⟩, hT⟩ hReport
    obtain ⟨letter, hLetter⟩ := Option.ne_none_iff_exists'.mp hReport
    rw [reportOf_eq_some] at hLetter
    cases letter with
    | F => exact hF hLetter
    | L => exact hL hLetter
    | E => exact hE hLetter
    | T => exact hT hLetter
  · intro h
    have hLetter (letter : Report) (hEq : byteAt dtmp i = letter.letter) : i + 3 < RD_BUF_SIZE :=
      h (by rw [reportOf_eq_some.mpr hEq]; nofun)
    exact ⟨⟨⟨hLetter .F, hLetter .L⟩, hLetter .E⟩, hLetter .T⟩

theorem onReport_congr {letter : Report} (branch : Nat → Gateway → Gateway)
    (h : ∀ j ∈ reportReads letter dtmp i, byteAt dtmp j = byteAt dtmp' j) (g : Gateway) :
    onReport letter branch dtmp i g = onReport letter branch dtmp' i g := by
  simp only [reportReads, comparedIndices, List.mem_append, List.mem_cons,
    List.mem_ite_nil_right, List.not_mem_nil, and_false, or_false] at h
  have hFirst : byteAt dtmp i = byteAt dtmp' i := h i (.inl (.inl rfl))
  by_cases hLetter : byteAt dtmp i = letter.letter
  · have hLast : byteAt dtmp (i + 3) = byteAt dtmp' (i + 3) :=
      h (i + 3) (.inl (.inr ⟨hLetter, rfl⟩))
    by_cases hBrace : byteAt dtmp (i + 3) = 0x7D
    · have hAdd : reportAdd dtmp i = reportAdd dtmp' i := by
        rw [reportAdd, reportAdd, h (i + 1) (.inr ⟨⟨hLetter, hBrace⟩, .inl rfl⟩),
          h (i + 2) (.inr ⟨⟨hLetter, hBrace⟩, .inr rfl⟩)]
      rw [onReport, onReport, hAdd, hFirst, hLast]
    · rw [onReport, onReport, if_neg fun hBoth => hBrace hBoth.2,
        if_neg fun hBoth => hBrace (hLast.trans hBoth.2)]
  · rw [onReport, onReport, if_neg fun hBoth => hLetter hBoth.1,
      if_neg fun hBoth => hLetter (hFirst.trans hBoth.1)]

theorem request_congr (h : ∀ j ∈ requestReads dtmp i, byteAt dtmp j = byteAt dtmp' j) :
    (byteAt dtmp i = 0x4E ∧ byteAt dtmp (i + 1) = 0x30 ∧ byteAt dtmp (i + 2) = 0x30 ∧
        byteAt dtmp (i + 3) = 0x7D) ↔
      (byteAt dtmp' i = 0x4E ∧ byteAt dtmp' (i + 1) = 0x30 ∧ byteAt dtmp' (i + 2) = 0x30 ∧
        byteAt dtmp' (i + 3) = 0x7D) := by
  simp only [requestReads, comparedIndices, List.mem_cons, List.mem_ite_nil_right,
    List.not_mem_nil, and_false, or_false] at h
  rw [← h i (.inl rfl)]
  refine and_congr_right fun hN => ?_
  rw [← h (i + 1) (.inr ⟨hN, .inl rfl⟩)]
  refine and_congr_right fun hOne => ?_
  rw [← h (i + 2) (.inr ⟨hN, .inr ⟨hOne, .inl rfl⟩⟩)]
  refine and_congr_right fun hTwo => ?_
  rw [← h (i + 3) (.inr ⟨hN, .inr ⟨hOne, .inr ⟨hTwo, rfl⟩⟩⟩)]

/-- A round depends on no other byte than those at its indices. -/
theorem handleByte_congr (h : ∀ j ∈ roundReads dtmp i, byteAt dtmp j = byteAt dtmp' j)
    (g : Gateway) : handleByte dtmp g i = handleByte dtmp' g i := by
  simp only [roundReads, List.forall_mem_append] at h
  obtain ⟨⟨⟨⟨hRequest, hF⟩, hL⟩, hE⟩, hT⟩ := h
  simp only [handleByte, request_congr hRequest, onReport_congr _ hF, onReport_congr _ hL,
    onReport_congr _ hE, onReport_congr _ hT]

end Round

/-! ## The bound -/

theorem mem_drop_iff {dtmp : List UInt8} {n : Nat} {b : UInt8} :
    b ∈ dtmp.drop n ↔ ∃ i, n ≤ i ∧ i < dtmp.length ∧ byteAt dtmp i = b := by
  rw [List.mem_drop_iff_getElem]
  constructor
  · rintro ⟨k, hk, rfl⟩
    exact ⟨n + k, by omega, by omega, List.getD_eq_getElem _ _ _⟩
  · rintro ⟨i, hLow, hHigh, rfl⟩
    obtain ⟨k, rfl⟩ := Nat.exists_eq_add_of_le hLow
    exact ⟨k, by omega, (List.getD_eq_getElem _ _ _).symm⟩

theorem loop_bound {dtmp : List UInt8} (hFits : dtmp.length < RD_BUF_SIZE) :
    (∀ index ∈ (List.range dtmp.length).flatMap (roundReads dtmp), index < RD_BUF_SIZE) ↔
      ∀ b ∈ dtmp.drop (RD_BUF_SIZE - 3), reportOf b = none := by
  constructor
  · intro h b hb
    obtain ⟨i, hLow, hHigh, rfl⟩ := mem_drop_iff.mp hb
    by_contra hReport
    have hAhead := (roundReads_bound hHigh hFits).mp (fun j hj =>
      h j (List.mem_flatMap.mpr ⟨i, List.mem_range.mpr hHigh, hj⟩)) hReport
    omega
  · intro h j hj
    obtain ⟨i, hi, hRead⟩ := List.mem_flatMap.mp hj
    rw [List.mem_range] at hi
    refine (roundReads_bound hi hFits).mpr (fun hReport => ?_) j hRead
    by_contra hEnd
    exact hReport (h _ (mem_drop_iff.mpr ⟨i, by omega, hi, rfl⟩))

theorem range_bound {n : Nat} (h : n ≤ RD_BUF_SIZE) : ∀ i ∈ List.range n, i < RD_BUF_SIZE :=
  fun _ hi => (List.mem_range.mp hi).trans_le h

/-- All indices are inside the buffer if and only if the terminator fits and the loop does not
look ahead from one of the last three bytes. -/
theorem bufferLaw_iff (data : UartData) : BufferLaw data ↔ BufferSafe data := by
  unfold BufferLaw BufferSafe bufferAccesses
  generalize data.received = dtmp
  split
  · have hText : (cString dtmp).length ≤ dtmp.length := cString_length_le dtmp
    simp only [List.forall_mem_append, List.forall_mem_singleton]
    constructor
    · rintro ⟨⟨⟨⟨⟨_, hFits⟩, _⟩, _⟩, _⟩, hLoop⟩
      refine ⟨hFits, fun hBrace => ?_⟩
      rw [if_pos hBrace] at hLoop
      exact (loop_bound hFits).mp hLoop
    · rintro ⟨hFits, hTail⟩
      refine ⟨⟨⟨⟨⟨range_bound hFits.le, hFits⟩, range_bound (by omega)⟩, range_bound hFits.le⟩,
        by decide⟩, ?_⟩
      split
      · rename_i hBrace
        exact (loop_bound hFits).mpr (hTail hBrace)
      · exact List.forall_mem_nil _
  · rename_i hNone
    obtain rfl : dtmp = [] := List.eq_nil_of_length_eq_zero (by omega)
    exact iff_of_true (List.forall_mem_nil _) ⟨by decide, fun _ => List.forall_mem_nil _⟩

/-- Events of up to 1021 bytes are safe whatever they hold. -/
theorem bufferSafe_of_short {data : UartData} (h : data.received.length + 3 ≤ RD_BUF_SIZE) :
    BufferSafe data := by
  refine ⟨by omega, fun _ b hb => ?_⟩
  rw [List.drop_eq_nil_of_le (by omega)] at hb
  cases hb

def fullBuffer : UartData where
  size := 1024
  received := List.replicate 1024 0x41
  ring := by decide
  delivered := by rw [List.length_replicate]

theorem full_buffer_overrun : ¬ BufferLaw fullBuffer := by
  intro hLaw
  have hLength : fullBuffer.received.length = 1024 := List.length_replicate
  have hEnd : 1024 ∈ bufferAccesses fullBuffer.received := by
    rw [bufferAccesses, hLength]
    simp
  exact absurd (hLaw 1024 hEnd) (by decide)

end FcomGateway
