import Mathlib.Data.List.Nodup
import Mathlib.Logic.Function.Basic

/-! # Singly linked lists in a heap

A heap maps addresses to cells; a missing cell is free, and reading it has no defined result.
`Seg heap p cells q` says that the cells are linked one after the other from `p` up to `q`.
-/

namespace LinkedHeap

universe u

structure Cell (α : Type u) where
  value : α
  next : Option Nat
  deriving DecidableEq, Repr

variable {α : Type u}

def Seg (heap : Nat → Option (Cell α)) : Option Nat → List (Nat × α) → Option Nat → Prop
  | p, [], q => p = q
  | p, (a, v) :: rest, q => p = some a ∧ ∃ next, heap a = some ⟨v, next⟩ ∧ Seg heap next rest q

/-- Following the links for at most `fuel` steps. There is no result when a free cell is read or
the end is not reached. -/
def walk (heap : Nat → Option (Cell α)) : Nat → Option Nat → Option (List (Nat × α))
  | _, none => some []
  | 0, some _ => none
  | fuel + 1, some a =>
    match heap a with
    | some cell => (walk heap fuel cell.next).map ((a, cell.value) :: ·)
    | none => none

variable {heap : Nat → Option (Cell α)} {p q r : Option Nat} {cells : List (Nat × α)}

theorem seg_append {front back : List (Nat × α)} :
    Seg heap p (front ++ back) r ↔ ∃ q, Seg heap p front q ∧ Seg heap q back r := by
  induction front generalizing p with
  | nil => simp [Seg]
  | cons cell front ih =>
    obtain ⟨a, v⟩ := cell
    simp only [List.cons_append, Seg, ih]
    constructor
    · rintro ⟨hStart, next, hRead, q, hFront, hBack⟩
      exact ⟨q, ⟨hStart, next, hRead, hFront⟩, hBack⟩
    · rintro ⟨q, ⟨hStart, next, hRead, hFront⟩, hBack⟩
      exact ⟨hStart, next, hRead, q, hFront, hBack⟩

theorem seg_unique {cells' : List (Nat × α)} (h : Seg heap p cells none)
    (h' : Seg heap p cells' none) : cells = cells' := by
  induction cells generalizing p cells' with
  | nil =>
    cases cells' with
    | nil => rfl
    | cons cell' rest' =>
      have hStart := h'.1
      rw [show p = none from h] at hStart
      cases hStart
  | cons cell rest ih =>
    obtain ⟨a, v⟩ := cell
    obtain ⟨hStart, next, hRead, hRest⟩ := h
    cases cells' with
    | nil =>
      rw [show p = none from h'] at hStart
      cases hStart
    | cons cell' rest' =>
      obtain ⟨a', v'⟩ := cell'
      obtain ⟨hStart', next', hRead', hRest'⟩ := h'
      obtain rfl : a = a' := Option.some.inj (hStart.symm.trans hStart')
      rw [hRead] at hRead'
      obtain ⟨rfl, rfl⟩ := Cell.mk.inj (Option.some.inj hRead')
      rw [ih hRest hRest']

theorem walk_eq (h : Seg heap p cells none) {fuel : Nat} (hFuel : cells.length ≤ fuel) :
    walk heap fuel p = some cells := by
  induction cells generalizing p fuel with
  | nil =>
    rw [show p = none from h]
    cases fuel <;> rfl
  | cons cell rest ih =>
    obtain ⟨a, v⟩ := cell
    obtain ⟨rfl, next, hRead, hRest⟩ := h
    cases fuel with
    | zero => cases hFuel
    | succ fuel =>
      have hWalk := ih hRest (Nat.le_of_succ_le_succ hFuel)
      simp only [walk, hRead, hWalk, Option.map_some]

theorem Seg.nodup (h : Seg heap p cells none) : (cells.map Prod.fst).Nodup := by
  induction cells generalizing p with
  | nil => exact List.nodup_nil
  | cons cell rest ih =>
    obtain ⟨a, v⟩ := cell
    have hWhole := h
    obtain ⟨rfl, next, hRead, hRest⟩ := h
    rw [List.map_cons, List.nodup_cons]
    refine ⟨fun hMem => ?_, ih hRest⟩
    obtain ⟨⟨b, w⟩, hCell, hAddr⟩ := List.mem_map.mp hMem
    obtain ⟨front, back, rfl⟩ := List.append_of_mem hCell
    obtain ⟨q, _, hBack⟩ := seg_append.mp hRest
    dsimp only at hAddr
    subst hAddr
    rw [hBack.1] at hBack
    have hLength := congrArg List.length (seg_unique hBack hWhole)
    simp at hLength
    omega

theorem Seg.allocated (h : Seg heap p cells q) {a : Nat} (ha : a ∈ cells.map Prod.fst) :
    heap a ≠ none := by
  induction cells generalizing p with
  | nil => cases ha
  | cons cell rest ih =>
    obtain ⟨b, v⟩ := cell
    obtain ⟨_, next, hRead, hRest⟩ := h
    rcases List.mem_cons.mp ha with rfl | hRestMem
    · rw [hRead]
      nofun
    · exact ih hRest hRestMem

/-- A write to another address leaves the list alone. -/
theorem Seg.frame (h : Seg heap p cells q) {a : Nat} (ha : a ∉ cells.map Prod.fst)
    (content : Option (Cell α)) : Seg (Function.update heap a content) p cells q := by
  induction cells generalizing p with
  | nil => exact h
  | cons cell rest ih =>
    obtain ⟨b, v⟩ := cell
    obtain ⟨hStart, next, hRead, hRest⟩ := h
    rw [List.map_cons, List.mem_cons, not_or] at ha
    refine ⟨hStart, next, ?_, ih hRest ha.2⟩
    rw [Function.update_of_ne (Ne.symm ha.1), hRead]

theorem Seg.apart {front back : List (Nat × α)} {a : Nat} {v : α}
    (h : Seg heap p (front ++ (a, v) :: back) none) :
    a ∉ front.map Prod.fst ∧ a ∉ back.map Prod.fst := by
  have hNodup := h.nodup
  rw [List.map_append, List.map_cons, List.nodup_middle, List.nodup_cons, List.mem_append,
    not_or] at hNodup
  exact hNodup.1

theorem Seg.start {front back : List (Nat × α)} {cell : Nat × α}
    (h : Seg heap p (front ++ [cell] ++ back) q) :
    ∃ a ∈ (front ++ [cell]).map Prod.fst, p = some a := by
  cases front with
  | nil => exact ⟨cell.1, List.mem_map_of_mem (List.mem_singleton_self cell), h.1⟩
  | cons first front => exact ⟨first.1, List.mem_map_of_mem List.mem_cons_self, h.1⟩

/-- Two lists of the same cells start at the same address. -/
theorem Seg.same_start {heap' : Nat → Option (Cell α)} {p' : Option Nat}
    (h : Seg heap p cells none) (h' : Seg heap' p' cells none) : p = p' := by
  cases cells with
  | nil => exact h.trans h'.symm
  | cons cell rest => exact h.1.trans h'.1.symm

theorem Seg.start_allocated (h : Seg heap p cells none) {a : Nat} (ha : p = some a) :
    heap a ≠ none := by
  cases cells with
  | nil =>
    rw [show p = none from h] at ha
    cases ha
  | cons cell rest =>
    obtain ⟨hStart, next, hRead, _⟩ := h
    obtain rfl : cell.1 = a := Option.some.inj (hStart.symm.trans ha)
    rw [hRead]
    nofun

theorem Seg.mem_of_read (h : Seg heap p cells none) {a : Nat} {cell : Cell α}
    (ha : a ∈ cells.map Prod.fst) (hRead : heap a = some cell) : (a, cell.value) ∈ cells := by
  obtain ⟨⟨a, v⟩, hMem, rfl⟩ := List.mem_map.mp ha
  obtain ⟨front, back, rfl⟩ := List.append_of_mem hMem
  obtain ⟨q, _, _, next, hRead', _⟩ := seg_append.mp h
  obtain rfl : ⟨v, next⟩ = cell := Option.some.inj (hRead'.symm.trans hRead)
  exact hMem

/-- The link of a cell of the list leads to a cell of the list, or ends it. -/
theorem Seg.next_allocated (h : Seg heap p cells none) {a b : Nat} {cell : Cell α}
    (ha : a ∈ cells.map Prod.fst) (hRead : heap a = some cell) (hNext : cell.next = some b) :
    heap b ≠ none := by
  obtain ⟨⟨a, v⟩, hMem, rfl⟩ := List.mem_map.mp ha
  obtain ⟨front, back, rfl⟩ := List.append_of_mem hMem
  obtain ⟨q, _, _, next, hRead', hBack⟩ := seg_append.mp h
  obtain rfl : ⟨v, next⟩ = cell := Option.some.inj (hRead'.symm.trans hRead)
  exact hBack.start_allocated hNext

/-! ## The three edits -/

theorem Seg.push (h : Seg heap p cells q) {a : Nat} (hFree : heap a = none) (v : α) :
    Seg (Function.update heap a (some ⟨v, p⟩)) (some a) ((a, v) :: cells) q := by
  refine ⟨rfl, p, Function.update_self .., h.frame (fun ha => ?_) _⟩
  exact h.allocated ha hFree

theorem Seg.write {front back : List (Nat × α)} {a : Nat} {v : α} {next : Option Nat}
    (h : Seg heap p (front ++ (a, v) :: back) none) (hRead : heap a = some ⟨v, next⟩) (v' : α) :
    Seg (Function.update heap a (some ⟨v', next⟩)) p (front ++ (a, v') :: back) none := by
  obtain ⟨hNotFront, hNotBack⟩ := h.apart
  obtain ⟨q, hFront, hStart, next', hRead', hBack⟩ := seg_append.mp h
  rw [hRead] at hRead'
  obtain ⟨_, rfl⟩ := Cell.mk.inj (Option.some.inj hRead')
  exact seg_append.mpr ⟨q, hFront.frame hNotFront _, hStart, next, Function.update_self ..,
    hBack.frame hNotBack _⟩

/-- The cell after `b` is taken out of the list and freed. -/
theorem Seg.unlink {front back : List (Nat × α)} {a b : Nat} {v w : α} {next : Option Nat}
    (h : Seg heap p (front ++ (b, w) :: (a, v) :: back) none)
    (hRead : heap a = some ⟨v, next⟩) :
    Seg (Function.update (Function.update heap b (some ⟨w, next⟩)) a none) p
      (front ++ (b, w) :: back) none := by
  obtain ⟨hPrevFront, hPrevBack⟩ := h.apart
  rw [List.map_cons, List.mem_cons, not_or] at hPrevBack
  have hSplit := h
  rw [List.append_cons] at hSplit
  obtain ⟨hCellFront, hCellBack⟩ := hSplit.apart
  rw [List.map_append, List.mem_append, not_or] at hCellFront
  obtain ⟨q, hFront, hStart, _, _, _, next', hRead', hBack⟩ := seg_append.mp h
  rw [hRead] at hRead'
  obtain ⟨_, rfl⟩ := Cell.mk.inj (Option.some.inj hRead')
  refine seg_append.mpr ⟨q, (hFront.frame hPrevFront _).frame hCellFront.1 _, hStart, next, ?_,
    (hBack.frame hPrevBack.2 _).frame hCellBack _⟩
  rw [Function.update_of_ne hPrevBack.1, Function.update_self]

end LinkedHeap
