import FcomGateway.Library.LinkedHeap
import FcomGateway.Heartbeat

/-! # The heartbeat list of `alarm_task.c` in memory

The functions work on the caller's own copy of the head. A call that reads a freed node or runs
around a cycle has no result. On a copy that is the current head they do what `Heartbeat` says.
-/

namespace FcomGateway

open LinkedHeap

/-- `allocations` counts the successful calls of `malloc`; no list is longer. -/
structure HeartbeatHeap where
  cell : Nat → Option (Cell Dtor)
  head : Option Nat
  allocations : Nat

namespace HeartbeatHeap

def empty : HeartbeatHeap where
  cell _ := none
  head := none
  allocations := 0

def getHead (h : HeartbeatHeap) : Option Nat := h.head

def setHead (list : Option Nat) (h : HeartbeatHeap) : HeartbeatHeap := { h with head := list }

/-- `malloc` returns the address of a free cell, or NULL when the memory is exhausted. The
caller's copy of the head is returned first. -/
def pushState (list : Option Nat) (id : Nat) (timestamp : Int) (malloc : Option Nat)
    (h : HeartbeatHeap) : Option Nat × HeartbeatHeap :=
  match malloc with
  | some temp =>
    if h.cell temp = none then
      (some temp, { h with
        cell := Function.update h.cell temp (some ⟨⟨id, timestamp⟩, list⟩)
        allocations := h.allocations + 1 })
    else (list, h)
  | none => (list, h)

/-- The loop of `add_state`: the first node of that id, or `none` at the end. -/
def findNode (cell : Nat → Option (Cell Dtor)) (id : Nat) :
    Nat → Option Nat → Option (Option Nat)
  | _, none => some none
  | 0, some _ => none
  | fuel + 1, some temp =>
    match cell temp with
    | some node => if node.value.id = id then some (some temp) else findNode cell id fuel node.next
    | none => none

def addState (list : Option Nat) (id : Nat) (timestamp : Int) (malloc : Option Nat)
    (h : HeartbeatHeap) : Option (Option Nat × HeartbeatHeap) := do
  match ← findNode h.cell id h.allocations list with
  | some temp =>
    let node ← h.cell temp
    let node := { node with value := { node.value with timestamp := timestamp } }
    let h := { h with cell := Function.update h.cell temp (some node) }
    return (list, h.setHead list)
  | none =>
    let (list, h) := h.pushState list id timestamp malloc
    return (list, h.setHead list)

/-- The loop of `pop_state`: the first node of that id with the node before it. -/
def findLink (cell : Nat → Option (Cell Dtor)) (id : Nat) :
    Nat → Option Nat → Option Nat → Option (Option (Option Nat × Nat))
  | _, _, none => some none
  | 0, _, some _ => none
  | fuel + 1, prev, some temp =>
    match cell temp with
    | some node =>
      if node.value.id = id then some (some (prev, temp))
      else findLink cell id fuel (some temp) node.next
    | none => none

def printState (list : Option Nat) (h : HeartbeatHeap) : Option Unit :=
  (walk h.cell h.allocations list).map fun _ => ()

/-- A node popped off the head is not freed. -/
def popState (list : Option Nat) (id : Nat) (h : HeartbeatHeap) :
    Option (Option Nat × HeartbeatHeap) := do
  match ← findLink h.cell id h.allocations list list with
  | some (prev, temp) =>
    let node ← h.cell temp
    if some temp = list then
      let h := h.setHead node.next
      h.printState node.next
      return (node.next, h)
    else
      let prev ← prev
      let before ← h.cell prev
      let cell := Function.update h.cell prev (some { before with next := node.next })
      let h := { h with cell := Function.update cell temp none }
      h.printState list
      return (list, h)
  | none => return (list, h)

def contents (h : HeartbeatHeap) : Option (List Dtor) :=
  (walk h.cell h.allocations h.head).map (List.map Prod.snd)

structure Holds (h : HeartbeatHeap) (list : List Dtor) : Prop where
  linked : ∃ cells, Seg h.cell h.head cells none ∧ cells.map Prod.snd = list
  bound : list.length ≤ h.allocations

theorem Holds.contents {h : HeartbeatHeap} {list : List Dtor} (hHolds : h.Holds list) :
    h.contents = some list := by
  obtain ⟨⟨cells, hSeg, rfl⟩, hBound⟩ := hHolds
  rw [List.length_map] at hBound
  rw [HeartbeatHeap.contents, walk_eq hSeg hBound, Option.map_some]

theorem empty_holds : empty.Holds [] := ⟨⟨[], rfl, rfl⟩, Nat.le_refl 0⟩

/-! ## The two loops -/

theorem findNode_eq (cell : Nat → Option (Cell Dtor)) (id fuel : Nat) (prev p : Option Nat) :
    findNode cell id fuel p = (findLink cell id fuel prev p).map (Option.map Prod.snd) := by
  induction fuel generalizing prev p with
  | zero => cases p <;> rfl
  | succ fuel ih =>
    cases p with
    | none => rfl
    | some temp =>
      rw [findNode, findLink]
      cases cell temp with
      | none => rfl
      | some node =>
        dsimp only
        split
        · rfl
        · exact ih (some temp) node.next

theorem findLink_none {cell : Nat → Option (Cell Dtor)} {prev p : Option Nat}
    {cells : List (Nat × Dtor)} {id fuel : Nat} (h : Seg cell p cells none)
    (hFuel : cells.length ≤ fuel) (hNone : id ∉ (cells.map Prod.snd).map Dtor.id) :
    findLink cell id fuel prev p = some none := by
  induction cells generalizing prev p fuel with
  | nil =>
    rw [show p = none from h]
    cases fuel <;> rfl
  | cons entry rest ih =>
    obtain ⟨a, node⟩ := entry
    obtain ⟨rfl, next, hRead, hRest⟩ := h
    rw [List.map_cons, List.map_cons, List.mem_cons, not_or] at hNone
    cases fuel with
    | zero => cases hFuel
    | succ fuel =>
      simp only [findLink, hRead, if_neg (Ne.symm hNone.1)]
      exact ih hRest (Nat.le_of_succ_le_succ hFuel) hNone.2

theorem findLink_some {cell : Nat → Option (Cell Dtor)} {prev p : Option Nat}
    {front back : List (Nat × Dtor)} {a : Nat} {node : Dtor} {id fuel : Nat}
    (h : Seg cell p (front ++ (a, node) :: back) none)
    (hFuel : (front ++ (a, node) :: back).length ≤ fuel)
    (hFront : id ∉ (front.map Prod.snd).map Dtor.id) (hNode : node.id = id) :
    findLink cell id fuel prev p = some (some ((front.map Prod.fst).getLast?.or prev, a)) := by
  induction front generalizing prev p fuel with
  | nil =>
    obtain ⟨rfl, next, hRead, _⟩ := h
    cases fuel with
    | zero => cases hFuel
    | succ fuel =>
      simp only [findLink, hRead, if_pos hNode]
      rfl
  | cons entry front ih =>
    obtain ⟨b, other⟩ := entry
    obtain ⟨rfl, next, hRead, hRest⟩ := h
    rw [List.map_cons, List.map_cons, List.mem_cons, not_or] at hFront
    cases fuel with
    | zero => cases hFuel
    | succ fuel =>
      simp only [findLink, hRead, if_neg (Ne.symm hFront.1)]
      rw [ih hRest (Nat.le_of_succ_le_succ hFuel) hFront.2, List.map_cons, List.getLast?_cons]
      cases (front.map Prod.fst).getLast? <;> rfl

/-! ## The calls on the current head -/

theorem Holds.split {h : HeartbeatHeap} {list : List Dtor} (hHolds : h.Holds list) (id : Nat) :
    (∃ cells, Seg h.cell h.head cells none ∧ cells.map Prod.snd = list ∧
      id ∉ list.map Dtor.id) ∨
    ∃ front a node back next, Seg h.cell h.head (front ++ (a, node) :: back) none ∧
      list = front.map Prod.snd ++ node :: back.map Prod.snd ∧
      h.cell a = some ⟨node, next⟩ ∧ id ∉ (front.map Prod.snd).map Dtor.id ∧ node.id = id := by
  obtain ⟨⟨cells, hSeg, rfl⟩, _⟩ := hHolds
  rcases Heartbeat.split_at_id id (cells.map Prod.snd) with
    hNone | ⟨front', node, back', hSplit, hFront, hNode⟩
  · exact Or.inl ⟨cells, hSeg, rfl, hNone⟩
  · obtain ⟨front, rest, rfl, rfl, hRest⟩ := List.map_eq_append_iff.mp hSplit
    obtain ⟨entry, back, rfl, rfl, rfl⟩ := List.map_eq_cons_iff.mp hRest
    obtain ⟨a, node⟩ := entry
    obtain ⟨q, _, hStart, next, hRead, _⟩ := seg_append.mp hSeg
    refine Or.inr ⟨front, a, node, back, next, hSeg, ?_, hRead, hFront, hNode⟩
    rw [List.map_append, List.map_cons]

def pushed (h : HeartbeatHeap) (a : Nat) (node : Dtor) : HeartbeatHeap where
  cell := Function.update h.cell a (some ⟨node, h.head⟩)
  head := some a
  allocations := h.allocations + 1

theorem Holds.findNode_new {h : HeartbeatHeap} {list : List Dtor} (hHolds : h.Holds list)
    {id : Nat} (hNew : id ∉ list.map Dtor.id) :
    findNode h.cell id h.allocations h.head = some none := by
  obtain ⟨⟨cells, hSeg, rfl⟩, hBound⟩ := hHolds
  rw [findNode_eq _ _ _ none, findLink_none hSeg (by simpa using hBound) hNew]
  rfl

theorem addState_new {h : HeartbeatHeap} {list : List Dtor} (hHolds : h.Holds list) {id a : Nat}
    (timestamp : Int) (hNew : id ∉ list.map Dtor.id) (hFree : h.cell a = none) :
    h.addState h.head id timestamp (some a) =
      some (some a, h.pushed a ⟨id, timestamp⟩) := by
  simp [addState, hHolds.findNode_new hNew, pushState, hFree, setHead, pushed]

theorem pushed_holds {h : HeartbeatHeap} {list : List Dtor} (hHolds : h.Holds list) {a : Nat}
    (node : Dtor) (hFree : h.cell a = none) : (h.pushed a node).Holds (node :: list) := by
  obtain ⟨⟨cells, hSeg, rfl⟩, hBound⟩ := hHolds
  exact ⟨⟨_, hSeg.push hFree node, rfl⟩, Nat.succ_le_succ hBound⟩

/-- On the current head `add_state` does what the list function says. It needs memory for a
new node only. -/
theorem addState_holds {h : HeartbeatHeap} {list : List Dtor} (hHolds : h.Holds list) {id : Nat}
    {malloc : Option Nat} (timestamp : Int)
    (hMalloc : id ∉ list.map Dtor.id → ∃ a, malloc = some a ∧ h.cell a = none) :
    ∃ next, h.addState h.head id timestamp malloc = some (next.head, next) ∧
      next.Holds (Heartbeat.addState id timestamp list) := by
  rcases hHolds.split id with ⟨cells, hSeg, rfl, hNone⟩ |
    ⟨front, a, node, back, next, hSeg, rfl, hRead, hFront, hNode⟩
  · obtain ⟨a, rfl, hFree⟩ := hMalloc hNone
    refine ⟨h.pushed a ⟨id, timestamp⟩, addState_new hHolds timestamp hNone hFree, ?_⟩
    rw [Heartbeat.addState, Heartbeat.refresh_eq_none hNone]
    exact pushed_holds hHolds ⟨id, timestamp⟩ hFree
  · have hBound := hHolds.bound
    have hFind : findNode h.cell id h.allocations h.head = some (some a) := by
      rw [findNode_eq _ _ _ none, findLink_some hSeg (by simpa using hBound) hFront hNode]
      rfl
    refine ⟨⟨Function.update h.cell a (some ⟨⟨id, timestamp⟩, next⟩), h.head, h.allocations⟩,
      by simp [addState, hFind, hRead, hNode, setHead], ?_⟩
    rw [Heartbeat.addState, Heartbeat.refresh_append hFront hNode, Option.getD_some]
    exact ⟨⟨_, hSeg.write hRead ⟨id, timestamp⟩, by simp⟩, by simpa using hBound⟩

/-- The call looks at the caller's copy only: on an old copy it publishes the list as it was when
the copy was taken, with the new timestamp, and everything added since is lost. -/
theorem addState_stale {h : HeartbeatHeap} {copy : Option Nat} {list : List Dtor}
    (hHolds : (h.setHead copy).Holds list) {id : Nat} {malloc : Option Nat} (timestamp : Int)
    (hMalloc : id ∉ list.map Dtor.id → ∃ a, malloc = some a ∧ h.cell a = none) :
    ∃ next, h.addState copy id timestamp malloc = some (next.head, next) ∧
      next.Holds (Heartbeat.addState id timestamp list) := by
  have hSame : h.addState copy id timestamp malloc =
      (h.setHead copy).addState (h.setHead copy).head id timestamp malloc := by
    cases malloc with
    | none => rfl
    | some a => by_cases hFree : h.cell a = none <;> simp [addState, pushState, setHead, hFree]
  rw [hSame]
  exact addState_holds hHolds timestamp hMalloc

/-- Of two new detectors added on the same copy of the head only the second is in the list. -/
theorem overlapping_adds {h : HeartbeatHeap} {list : List Dtor} (hHolds : h.Holds list)
    {first second a b : Nat} (timestamp timestamp' : Int) (hFirst : first ∉ list.map Dtor.id)
    (hSecond : second ∉ list.map Dtor.id) (ha : h.cell a = none) (hb : h.cell b = none)
    (hDistinct : b ≠ a) : ∃ middle last,
    h.addState h.head first timestamp (some a) = some (middle.head, middle) ∧
    middle.addState h.head second timestamp' (some b) = some (last.head, last) ∧
    last.Holds (⟨second, timestamp'⟩ :: list) := by
  have hCopy : ((h.pushed a ⟨first, timestamp⟩).setHead h.head).Holds list := by
    obtain ⟨⟨cells, hSeg, rfl⟩, hBound⟩ := hHolds
    exact ⟨⟨cells, hSeg.frame (fun hMem => hSeg.allocated hMem ha) _, rfl⟩,
      Nat.le_succ_of_le hBound⟩
  have hFree : (h.pushed a ⟨first, timestamp⟩).cell b = none :=
    (Function.update_of_ne hDistinct ..).trans hb
  obtain ⟨last, hCall, hLast⟩ := addState_stale hCopy timestamp' fun _ => ⟨b, rfl, hFree⟩
  rw [Heartbeat.addState, Heartbeat.refresh_eq_none hSecond] at hLast
  exact ⟨h.pushed a ⟨first, timestamp⟩, last, addState_new hHolds timestamp hFirst ha, hCall,
    hLast⟩

theorem printState_eq {h : HeartbeatHeap} {p : Option Nat} {cells : List (Nat × Dtor)}
    (hSeg : Seg h.cell p cells none) (hBound : cells.length ≤ h.allocations) :
    h.printState p = some () := by
  rw [printState, walk_eq hSeg hBound, Option.map_some]

theorem popState_front {h : HeartbeatHeap} {a id : Nat} {node : Dtor} {back : List (Nat × Dtor)}
    (hSeg : Seg h.cell h.head ((a, node) :: back) none)
    (hBound : back.length + 1 ≤ h.allocations) (hNode : node.id = id) :
    ∃ next, h.popState h.head id = some (next, h.setHead next) ∧ Seg h.cell next back none := by
  have hFind : findLink h.cell id h.allocations h.head h.head = some (some (h.head, a)) :=
    findLink_some (List.nil_append ((a, node) :: back) ▸ hSeg) hBound List.not_mem_nil hNode
  obtain ⟨hHead, next, hRead, hBack⟩ := hSeg
  have hPrint : (h.setHead next).printState next = some () :=
    printState_eq hBack (Nat.le_of_succ_le hBound)
  refine ⟨next, ?_, hBack⟩
  simp only [popState, hFind, hRead, if_pos hHead.symm, hPrint, Option.bind_eq_bind,
    Option.bind_some]
  rfl

theorem popState_later {h : HeartbeatHeap} {a b id : Nat} {node before : Dtor}
    {front back : List (Nat × Dtor)}
    (hSeg : Seg h.cell h.head (front ++ (b, before) :: (a, node) :: back) none)
    (hBound : (front ++ (b, before) :: (a, node) :: back).length ≤ h.allocations)
    (hFront : id ∉ ((front ++ [(b, before)]).map Prod.snd).map Dtor.id) (hNode : node.id = id) :
    ∃ cell, h.popState h.head id = some (h.head, { h with cell := cell }) ∧
      Seg cell h.head (front ++ (b, before) :: back) none ∧
      ∀ c, cell c = none ↔ c = a ∨ h.cell c = none := by
  obtain ⟨q, _, _, next', hBefore, _, next, hRead, _⟩ := seg_append.mp hSeg
  have hUnlinked := hSeg.unlink hRead
  rw [List.append_cons] at hSeg hBound
  have hFind : findLink h.cell id h.allocations h.head h.head = some (some (some b, a)) := by
    rw [findLink_some hSeg hBound hFront hNode]
    simp
  have hNotHead : some a ≠ h.head := by
    obtain ⟨c, hMem, hStart⟩ := hSeg.start
    rw [hStart]
    rintro ⟨⟩
    exact hSeg.apart.1 hMem
  obtain ⟨cell, hCell⟩ : ∃ cell, cell =
    Function.update (Function.update h.cell b (some ⟨before, next⟩)) a none := ⟨_, rfl⟩
  rw [← hCell] at hUnlinked
  have hPrint : printState h.head { h with cell := cell } = some () := by
    refine printState_eq hUnlinked ?_
    simp only [List.length_append, List.length_cons, List.length_nil] at hBound ⊢
    omega
  have hFreed : ∀ c, cell c = none ↔ c = a ∨ h.cell c = none := by
    intro c
    rw [hCell]
    by_cases hC : c = a
    · simp [hC]
    · by_cases hB : c = b
      · rw [hB] at hC ⊢
        simp [hC, hBefore]
      · simp [hC, hB]
  refine ⟨cell, ?_, hUnlinked, hFreed⟩
  simp only [popState, hFind, hRead, if_neg hNotHead, hBefore, ← hCell, hPrint,
    Option.bind_eq_bind, Option.bind_some]
  rfl

theorem popState_holds {h : HeartbeatHeap} {list : List Dtor} (hHolds : h.Holds list) (id : Nat) :
    ∃ next, h.popState h.head id = some (next.head, next) ∧
      next.Holds (Heartbeat.popState id list) := by
  have hBound := hHolds.bound
  rcases hHolds.split id with ⟨cells, hSeg, rfl, hNone⟩ |
    ⟨front, a, node, back, _, hSeg, rfl, _, hFront, hNode⟩
  · have hFind : findLink h.cell id h.allocations h.head h.head = some none :=
      findLink_none hSeg (by simpa using hBound) hNone
    refine ⟨h, by simp [popState, hFind], ?_⟩
    rw [Heartbeat.popState_of_not_mem hNone]
    exact hHolds
  · rw [Heartbeat.popState_append hFront hNode]
    rcases List.eq_nil_or_concat front with rfl | ⟨front, ⟨b, before⟩, rfl⟩
    · have hLength : back.length + 1 ≤ h.allocations := by simpa using hBound
      obtain ⟨next, hCall, hBack⟩ := popState_front hSeg hLength hNode
      refine ⟨h.setHead next, hCall, ⟨back, hBack, rfl⟩, ?_⟩
      simpa [setHead] using Nat.le_of_succ_le hLength
    · rw [List.concat_eq_append] at hSeg hBound hFront ⊢
      rw [List.append_assoc] at hSeg
      obtain ⟨cell, hCall, hRest, _⟩ := popState_later hSeg (by simpa using hBound) hFront hNode
      refine ⟨{ h with cell := cell }, hCall, ⟨_, hRest, by simp⟩, ?_⟩
      simp only [List.length_append, List.length_cons, List.length_map, List.length_nil] at hBound ⊢
      omega

end HeartbeatHeap

end FcomGateway
