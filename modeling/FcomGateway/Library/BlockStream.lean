import Mathlib.Data.List.Basic

/-! # Streams of blocks cut into chunks

A stream is the concatenation of encoded blocks of one width, and arrives in chunks that need not
end where a block ends. `whole` lists the blocks that lie in one chunk which starts where a block
starts; a receiver without memory between chunks can get those and no others.
-/

namespace BlockStream

universe u v w

variable {A : Type u} {B : Type v} {C : Type w} (enc : B → List A) (width : Nat)

def stream (blocks : List B) : List A := blocks.flatMap enc

/-- The blocks that lie in one chunk starting at a block, from offset `o` of the stream on. -/
def whole (blocks : List B) : Nat → List (List A) → List B
  | _, [] => []
  | o, chunk :: chunks =>
    (if width ∣ o then (blocks.drop (o / width)).take (chunk.length / width) else []) ++
      whole blocks (o + chunk.length) chunks

/-- A receiver that gets the whole blocks of a chunk which starts at a block, and nothing from a
chunk which starts inside one. -/
structure Receives (recv : List A → List C) (f : B → Option C) : Prop where
  aligned : ∀ blocks n, recv ((stream enc blocks).take n) =
    (blocks.take (n / width)).filterMap f
  inside : ∀ blocks r n, 0 < r → r < width → recv (((stream enc blocks).drop r).take n) = []

variable {enc width}

theorem stream_drop (hWidth : ∀ b, (enc b).length = width) (blocks : List B) (k r : Nat) :
    (stream enc blocks).drop (width * k + r) = (stream enc (blocks.drop k)).drop r := by
  induction k generalizing blocks with
  | zero => simp
  | succ k ih =>
    cases blocks with
    | nil => simp [stream]
    | cons b blocks =>
      have hOffset : width * (k + 1) + r = (enc b).length + (width * k + r) := by
        rw [hWidth, Nat.mul_succ]
        omega
      rw [List.drop_succ_cons, ← ih, hOffset]
      exact List.drop_length_add_append (width * k + r)

theorem stream_length (hWidth : ∀ b, (enc b).length = width) (blocks : List B) :
    (stream enc blocks).length = width * blocks.length := by
  induction blocks with
  | nil => rfl
  | cons b blocks ih =>
    have hLength : (stream enc (b :: blocks)).length = width + (stream enc blocks).length := by
      simp [stream, hWidth]
    rw [hLength, ih, List.length_cons, Nat.mul_succ, Nat.add_comm]

theorem recv_chunks (hWidth : ∀ b, (enc b).length = width) (hPos : 0 < width)
    {recv : List A → List C} {f : B → Option C} (h : Receives enc width recv f)
    (blocks : List B) (chunks : List (List A)) (o : Nat)
    (hChunks : chunks.flatten = (stream enc blocks).drop o) :
    chunks.flatMap recv = (whole width blocks o chunks).filterMap f := by
  induction chunks generalizing o with
  | nil => rfl
  | cons chunk chunks ih =>
    have hChunk : chunk = ((stream enc blocks).drop o).take chunk.length := by
      rw [← hChunks, List.flatten_cons, List.take_left]
    have hRest : chunks.flatten = (stream enc blocks).drop (o + chunk.length) := by
      rw [← List.drop_drop, ← hChunks, List.flatten_cons, List.drop_left]
    have hSplit := stream_drop hWidth blocks (o / width) (o % width)
    rw [Nat.div_add_mod] at hSplit
    rw [List.flatMap_cons, ih _ hRest, whole, List.filterMap_append]
    congr 1
    by_cases hStart : width ∣ o
    · rw [Nat.mod_eq_zero_of_dvd hStart, List.drop_zero] at hSplit
      have hRecv := h.aligned (blocks.drop (o / width)) chunk.length
      rw [← hSplit, ← hChunk] at hRecv
      rw [if_pos hStart, hRecv]
    · have hInside : 0 < o % width := Nat.pos_of_ne_zero fun hZero =>
        hStart (Nat.dvd_of_mod_eq_zero hZero)
      have hRecv := h.inside (blocks.drop (o / width)) _ chunk.length hInside (Nat.mod_lt o hPos)
      rw [← hSplit, ← hChunk] at hRecv
      rw [if_neg hStart, hRecv]
      rfl

theorem whole_sublist (hPos : 0 < width) (blocks : List B) (chunks : List (List A)) (o : Nat) :
    (whole width blocks o chunks).Sublist (blocks.drop ((o + (width - 1)) / width)) := by
  induction chunks generalizing o with
  | nil => exact List.nil_sublist _
  | cons chunk chunks ih =>
    have hRest := ih (o + chunk.length)
    rw [whole]
    by_cases hStart : width ∣ o
    · obtain ⟨k, rfl⟩ := hStart
      have hFirst : (width * k + (width - 1)) / width = k := by
        rw [Nat.mul_add_div hPos, Nat.div_eq_of_lt (Nat.sub_lt hPos Nat.one_pos), Nat.add_zero]
      have hNext : k + chunk.length / width ≤
          (width * k + chunk.length + (width - 1)) / width := by
        rw [Nat.add_assoc, Nat.mul_add_div hPos]
        exact Nat.add_le_add_left (Nat.div_le_div_right (Nat.le_add_right _ _)) k
      rw [if_pos (Nat.dvd_mul_right width k), hFirst, Nat.mul_div_cancel_left k hPos]
      have hTail := hRest.trans (List.drop_sublist_drop_left blocks hNext)
      rw [← List.drop_drop] at hTail
      have hWhole := (List.Sublist.refl ((blocks.drop k).take (chunk.length / width))).append hTail
      rwa [List.take_append_drop] at hWhole
    · rw [if_neg hStart, List.nil_append]
      refine hRest.trans (List.drop_sublist_drop_left blocks (Nat.div_le_div_right ?_))
      omega

theorem whole_of_dvd (hWidth : ∀ b, (enc b).length = width) (hPos : 0 < width)
    (blocks : List B) (chunks : List (List A)) (o : Nat)
    (hChunks : chunks.flatten = (stream enc blocks).drop o) (hStart : width ∣ o)
    (hCut : ∀ chunk ∈ chunks, width ∣ chunk.length) :
    whole width blocks o chunks = blocks.drop (o / width) := by
  induction chunks generalizing o with
  | nil =>
    obtain ⟨k, rfl⟩ := hStart
    have hLength := congrArg List.length hChunks
    rw [List.length_drop, stream_length hWidth, ← Nat.mul_sub] at hLength
    rw [Nat.mul_div_cancel_left k hPos, List.drop_eq_nil_of_le]
    · rfl
    · have hZero : width * (blocks.length - k) = 0 := hLength.symm
      have := (Nat.mul_eq_zero.mp hZero).resolve_left (by omega)
      omega
  | cons chunk chunks ih =>
    obtain ⟨m, hm⟩ := hCut chunk List.mem_cons_self
    have hRest : chunks.flatten = (stream enc blocks).drop (o + chunk.length) := by
      rw [← List.drop_drop, ← hChunks, List.flatten_cons, List.drop_left]
    have hNext := ih (o + chunk.length) hRest (Nat.dvd_add hStart ⟨m, hm⟩)
      fun c hc => hCut c (List.mem_cons_of_mem _ hc)
    obtain ⟨k, rfl⟩ := hStart
    rw [whole, if_pos (Nat.dvd_mul_right width k), hNext, hm, ← Nat.mul_add,
      Nat.mul_div_cancel_left _ hPos, Nat.mul_div_cancel_left _ hPos,
      Nat.mul_div_cancel_left _ hPos, ← List.drop_drop, List.take_append_drop]

end BlockStream
