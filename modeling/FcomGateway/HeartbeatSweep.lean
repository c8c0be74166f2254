import Mathlib.Data.Set.Card
import FcomGateway.HeartbeatStore

/-! # A pass of `Heartbeat_Task` over its list

The pass walks along the links and pops the node it stands on when that node is too old. The
clock is read anew for every node.
-/

namespace FcomGateway

open EventTrace LinkedHeap HeartbeatHeap

structure HeartbeatHeap.Linked (h : HeartbeatHeap) (cells : List (Nat × Dtor)) : Prop where
  seg : Seg h.cell h.head cells none
  bound : cells.length ≤ h.allocations

/-- The allocated nodes are those of the list. -/
structure HeartbeatHeap.Owns (h : HeartbeatHeap) (cells : List (Nat × Dtor)) : Prop where
  linked : h.Linked cells
  live : ∀ a, h.cell a ≠ none ↔ a ∈ cells.map Prod.fst

theorem HeartbeatHeap.Linked.holds {h : HeartbeatHeap} {cells : List (Nat × Dtor)}
    (hLinked : h.Linked cells) : h.Holds (cells.map Prod.snd) :=
  ⟨⟨cells, hLinked.seg, rfl⟩, by rw [List.length_map]; exact hLinked.bound⟩

theorem HeartbeatHeap.Linked.findNode {h : HeartbeatHeap} {front back : List (Nat × Dtor)}
    {a id : Nat} {found : Dtor} (hLinked : h.Linked (front ++ (a, found) :: back))
    (hFront : id ∉ (front.map Prod.snd).map Dtor.id) (hFound : found.id = id) :
    findNode h.cell id h.allocations h.head = some (some a) := by
  rw [findNode_eq _ _ _ none, findLink_some hLinked.seg hLinked.bound hFront hFound]
  rfl

theorem HeartbeatHeap.Owns.count {h : HeartbeatHeap} {cells : List (Nat × Dtor)}
    (hOwns : h.Owns cells) : {a | h.cell a ≠ none}.ncard = cells.length := by
  have hNodup := hOwns.linked.seg.nodup
  have hLive : {a | h.cell a ≠ none} = ((cells.map Prod.fst).toFinset : Set Nat) := by
    ext a
    simpa using hOwns.live a
  rw [hLive, Set.ncard_coe_finset, List.toFinset_card_of_nodup hNodup, List.length_map]

theorem HeartbeatHeap.empty_owns : HeartbeatHeap.empty.Owns [] :=
  ⟨⟨rfl, Nat.le_refl 0⟩, by simp [HeartbeatHeap.empty]⟩

theorem HeartbeatHeap.Owns.pushed {h : HeartbeatHeap} {cells : List (Nat × Dtor)}
    (hOwns : h.Owns cells) {a : Nat} (hFree : h.cell a = none) (node : Dtor) :
    (h.pushed a node).Owns ((a, node) :: cells) := by
  obtain ⟨⟨hSeg, hBound⟩, hLive⟩ := hOwns
  refine ⟨⟨hSeg.push hFree node, Nat.succ_le_succ hBound⟩, fun c => ?_⟩
  rw [List.map_cons, List.mem_cons, ← hLive, HeartbeatHeap.pushed]
  by_cases hC : c = a
  · simp [hC]
  · simp [hC]

/-- Unlinking a node and freeing it keeps the allocated nodes those of the list. -/
theorem HeartbeatHeap.Owns.unlink {h : HeartbeatHeap} {front back : List (Nat × Dtor)}
    {before found : Nat × Dtor} {cell : Nat → Option (Cell Dtor)}
    (hOwns : h.Owns (front ++ before :: found :: back))
    (hRest : Seg cell h.head (front ++ before :: back) none)
    (hFreed : ∀ c, cell c = none ↔ c = found.1 ∨ h.cell c = none) :
    ({ h with cell := cell } : HeartbeatHeap).Owns (front ++ before :: back) := by
  obtain ⟨⟨hSeg, hBound⟩, hLive⟩ := hOwns
  have hSplit := hSeg
  rw [List.append_cons] at hSplit
  have hApart : found.1 ∉ (front ++ before :: back).map Prod.fst := by
    rw [List.append_cons, List.map_append, List.mem_append, not_or]
    exact hSplit.apart
  refine ⟨⟨hRest, ?_⟩, fun c => ?_⟩
  · simp only [List.length_append, List.length_cons] at hBound ⊢
    omega
  · dsimp only
    rw [ne_eq, hFreed, not_or, ← ne_eq (h.cell c), hLive]
    have hMem : c ∈ (front ++ before :: found :: back).map Prod.fst ↔
        c = found.1 ∨ c ∈ (front ++ before :: back).map Prod.fst := by
      simp only [List.map_append, List.map_cons, List.mem_append, List.mem_cons]
      tauto
    rw [hMem]
    constructor
    · rintro ⟨hOther, hEither⟩
      exact hEither.resolve_left hOther
    · intro hLeft
      refine ⟨?_, Or.inr hLeft⟩
      rintro rfl
      exact hApart hLeft

/-- `posted` lists the detectors for which `SS_ERROR_FLAG` was sent, oldest first. `readFreed`
is set by a look at a node that has been freed. -/
structure Sweep where
  heap : HeartbeatHeap
  checker : Option Nat
  posted : List Nat
  readFreed : Bool

namespace Sweep

def start (h : HeartbeatHeap) : Sweep where
  heap := h
  checker := h.getHead
  posted := []
  readFreed := false

def expire (id : Nat) (s : Sweep) : Sweep :=
  match s.heap.popState s.heap.getHead id with
  | some (_, heap) => { s with heap := heap, posted := s.posted ++ [id] }
  | none => { s with posted := s.posted ++ [id], readFreed := true }

def check (s : Sweep) (now : Int) : Sweep :=
  match s.checker with
  | none => s
  | some p =>
    match s.heap.cell p with
    | none => { s with checker := none, readFreed := true }
    | some node =>
      let s := if now - node.value.timestamp ≥ HEART_BEAT_TIME then s.expire node.value.id else s
      match s.heap.cell p with
      | some node => { s with checker := node.next }
      -- the memory of the freed node still holds the link that `checker->next` reads
      | none => { s with checker := node.next, readFreed := true }

theorem expire_head {s : Sweep} {a : Nat} {node : Dtor} {back : List (Nat × Dtor)}
    (h : s.heap.Linked ((a, node) :: back)) :
    ∃ next, s.expire node.id =
        { s with heap := s.heap.setHead next, posted := s.posted ++ [node.id] } ∧
      Seg s.heap.cell next back none := by
  obtain ⟨next, hCall, hBack⟩ := popState_front h.seg h.bound rfl
  refine ⟨next, ?_, hBack⟩
  rw [Sweep.expire, getHead, hCall]

theorem expire_later {s : Sweep} {front back : List (Nat × Dtor)} {b a : Nat} {before node : Dtor}
    (h : s.heap.Linked (front ++ (b, before) :: (a, node) :: back))
    (hFirst : node.id ∉ ((front ++ [(b, before)]).map Prod.snd).map Dtor.id) :
    ∃ cell, s.expire node.id = { s with
          heap := { s.heap with cell := cell }
          posted := s.posted ++ [node.id] } ∧
      Seg cell s.heap.head (front ++ (b, before) :: back) none ∧
      ∀ c, cell c = none ↔ c = a ∨ s.heap.cell c = none := by
  obtain ⟨cell, hCall, hRest, hFreed⟩ := popState_later h.seg h.bound hFirst rfl
  refine ⟨cell, ?_, hRest, hFreed⟩
  rw [Sweep.expire, getHead, hCall]

theorem first_of_id {cells : List (Nat × Dtor)} {id : Nat}
    (hMem : id ∈ (cells.map Prod.snd).map Dtor.id) :
    (∃ a node back, cells = (a, node) :: back ∧ node.id = id) ∨
    ∃ front b before a node back, cells = front ++ (b, before) :: (a, node) :: back ∧
      id ∉ ((front ++ [(b, before)]).map Prod.snd).map Dtor.id ∧ node.id = id := by
  rcases Heartbeat.split_at_id id (cells.map Prod.snd) with hNone |
    ⟨front, node, back, hCells, hFront, hNode⟩
  · exact absurd hMem hNone
  · obtain ⟨frontCells, rest, rfl, rfl, hRest⟩ := List.map_eq_append_iff.mp hCells
    obtain ⟨⟨a, found⟩, backCells, rfl, rfl, rfl⟩ := List.map_eq_cons_iff.mp hRest
    rcases List.eq_nil_or_concat frontCells with rfl | ⟨front, ⟨b, before⟩, rfl⟩
    · exact Or.inl ⟨a, found, backCells, rfl, hNode⟩
    · rw [List.concat_eq_append] at hFront ⊢
      exact Or.inr ⟨front, b, before, a, found, backCells, by simp, hFront, hNode⟩

variable {s : Sweep} {p : Nat} {node : Cell Dtor} {now : Int}

theorem check_young (hAt : s.checker = some p) (hRead : s.heap.cell p = some node)
    (hYoung : now - node.value.timestamp < HEART_BEAT_TIME) :
    s.check now = { s with checker := node.next } := by
  have hTest : ¬ now - node.value.timestamp ≥ HEART_BEAT_TIME := by omega
  simp only [check, hAt, hRead, if_neg hTest]

theorem check_old (hAt : s.checker = some p) (hRead : s.heap.cell p = some node)
    (hOld : HEART_BEAT_TIME ≤ now - node.value.timestamp) :
    (∃ next, (s.expire node.value.id).heap.cell p = some next ∧
      s.check now = { s.expire node.value.id with checker := next.next }) ∨
    (s.expire node.value.id).heap.cell p = none ∧
      s.check now =
        { s.expire node.value.id with checker := node.next, readFreed := true } := by
  have hTest : now - node.value.timestamp ≥ HEART_BEAT_TIME := hOld
  simp only [check, hAt, hRead, if_pos hTest]
  cases hNext : (s.expire node.value.id).heap.cell p with
  | none => exact Or.inr ⟨rfl, rfl⟩
  | some next => exact Or.inl ⟨next, rfl, rfl⟩

theorem check_old_heap (hAt : s.checker = some p) (hRead : s.heap.cell p = some node)
    (hOld : HEART_BEAT_TIME ≤ now - node.value.timestamp) :
    (s.check now).heap = (s.expire node.value.id).heap := by
  rcases check_old hAt hRead hOld with ⟨_, _, hCheck⟩ | ⟨_, hCheck⟩
  · rw [hCheck]
  · rw [hCheck]

/-! ## Who owns a node -/

/-- No node is looked at after it was freed, the next look included, and as many nodes are
allocated as the list has. -/
structure OwnershipLaw (s : Sweep) : Prop where
  running : s.readFreed = false
  next : ∀ p ∈ s.checker, s.heap.cell p ≠ none
  owned : ∃ cells, s.heap.Owns cells ∧ {a | s.heap.cell a ≠ none}.ncard = cells.length

/-- An old node is looked up by its id, and the node found stands neither at the head nor
under the pass. -/
def CheckSafe (s : Sweep) (now : Int) : Prop :=
  ∀ p ∈ s.checker, ∀ node ∈ s.heap.cell p, HEART_BEAT_TIME ≤ now - node.value.timestamp →
    ∀ first ∈ (findNode s.heap.cell node.value.id s.heap.allocations s.heap.head).join,
      s.heap.head ≠ some first ∧ first ≠ p

instance (s : Sweep) (now : Int) : Decidable (CheckSafe s now) := by
  unfold CheckSafe
  infer_instance

theorem OwnershipLaw.young (hLaw : OwnershipLaw s) (hAt : s.checker = some p)
    (hRead : s.heap.cell p = some node) (hYoung : now - node.value.timestamp < HEART_BEAT_TIME) :
    OwnershipLaw (s.check now) := by
  obtain ⟨cells, hOwned, _⟩ := hLaw.owned
  have hMem := (hOwned.live p).mp (hLaw.next p hAt)
  rw [check_young hAt hRead hYoung]
  exact ⟨hLaw.running, fun q hq => hOwned.linked.seg.next_allocated hMem hRead hq, hLaw.owned⟩

theorem checkSafe_young (hAt : s.checker = some p) (hRead : s.heap.cell p = some node)
    (hYoung : now - node.value.timestamp < HEART_BEAT_TIME) : CheckSafe s now := by
  intro q hq other hOther hOld
  obtain rfl : p = q := Option.some.inj (hAt.symm.trans hq)
  obtain rfl : node = other := Option.some.inj (hRead.symm.trans hOther)
  omega

theorem checkSafe_old (hAt : s.checker = some p) (hRead : s.heap.cell p = some node)
    (hOld : HEART_BEAT_TIME ≤ now - node.value.timestamp) {first : Nat}
    (hFind : findNode s.heap.cell node.value.id s.heap.allocations s.heap.head =
      some (some first)) :
    CheckSafe s now ↔ s.heap.head ≠ some first ∧ first ≠ p := by
  simp only [CheckSafe, hAt, Option.mem_def, Option.some.injEq, forall_eq', hRead, hFind,
    Option.join_some]
  exact forall_prop_of_true hOld

theorem not_ownershipLaw_head {a : Nat} {found : Dtor} {back : List (Nat × Dtor)}
    (hOwned : s.heap.Owns ((a, found) :: back)) (hAt : s.checker = some p)
    (hRead : s.heap.cell p = some node) (hId : found.id = node.value.id)
    (hOld : HEART_BEAT_TIME ≤ now - node.value.timestamp) : ¬ OwnershipLaw (s.check now) := by
  rintro ⟨_, _, cells, hOwns, _⟩
  obtain ⟨next, hExpire, hBack⟩ := expire_head hOwned.linked
  rw [hId] at hExpire
  rw [check_old_heap hAt hRead hOld, hExpire] at hOwns
  obtain rfl := seg_unique hOwns.linked.seg hBack
  have hLeft : a ∈ cells.map Prod.fst :=
    (hOwns.live a).mp ((hOwned.live a).mpr List.mem_cons_self)
  exact (List.nodup_cons.mp hOwned.linked.seg.nodup).1 hLeft

/-- A node that leaves the list further back is freed, which is in order unless the pass stands
on it. -/
theorem ownershipLaw_later_iff {front back : List (Nat × Dtor)} {b a : Nat} {before found : Dtor}
    (hRunning : s.readFreed = false)
    (hOwned : s.heap.Owns (front ++ (b, before) :: (a, found) :: back))
    (hFirst : found.id ∉ ((front ++ [(b, before)]).map Prod.snd).map Dtor.id)
    (hAt : s.checker = some p) (hRead : s.heap.cell p = some node)
    (hId : found.id = node.value.id) (hOld : HEART_BEAT_TIME ≤ now - node.value.timestamp) :
    OwnershipLaw (s.check now) ↔ a ≠ p := by
  obtain ⟨cell, hExpire, hRest, hFreed⟩ := expire_later hOwned.linked hFirst
  have hOwns := hOwned.unlink hRest hFreed
  rw [hId] at hExpire
  have hAllocated : s.heap.cell p ≠ none := by
    rw [hRead]
    exact Option.some_ne_none node
  rcases check_old hAt hRead hOld with ⟨next, hNext, hCheck⟩ | ⟨hGone, hCheck⟩
  · rw [hExpire] at hNext
    have hStays : cell p = some next := hNext
    have hLive : cell p ≠ none := by
      rw [hStays]
      exact Option.some_ne_none next
    rw [hCheck, hExpire]
    refine iff_of_true ⟨hRunning, fun q hq => ?_, _, hOwns, hOwns.count⟩ ?_
    · exact hRest.next_allocated ((hOwns.live p).mp hLive) hStays hq
    · rintro rfl
      exact hLive ((hFreed a).mpr (Or.inl rfl))
  · rw [hExpire] at hGone
    have hSelf : p = a := ((hFreed p).mp hGone).resolve_right hAllocated
    refine iff_of_false ?_ fun hOther => hOther hSelf.symm
    rintro ⟨hReadFreed, _, _⟩
    rw [hCheck] at hReadFreed
    cases hReadFreed

theorem ownershipLaw_check_iff (hLaw : OwnershipLaw s) (now : Int) :
    OwnershipLaw (s.check now) ↔ CheckSafe s now := by
  obtain ⟨cells, hOwned, _⟩ := hLaw.owned
  cases hAt : s.checker with
  | none =>
    rw [show s.check now = s by rw [check, hAt]]
    exact iff_of_true hLaw (by simp [CheckSafe, hAt])
  | some p =>
    have hAllocated := hLaw.next p hAt
    obtain ⟨node, hRead⟩ := Option.ne_none_iff_exists'.mp hAllocated
    rcases Int.lt_or_le (now - node.value.timestamp) HEART_BEAT_TIME with hYoung | hOld
    · exact iff_of_true (hLaw.young hAt hRead hYoung) (checkSafe_young hAt hRead hYoung)
    · have hId : node.value.id ∈ (cells.map Prod.snd).map Dtor.id := by
        have hNode := hOwned.linked.seg.mem_of_read ((hOwned.live p).mp hAllocated) hRead
        exact List.mem_map_of_mem (List.mem_map_of_mem hNode)
      rcases first_of_id hId with ⟨a, found, back, rfl, hFound⟩ |
        ⟨front, b, before, a, found, back, rfl, hFirst, hFound⟩
      · have hHead : s.heap.Linked ([] ++ (a, found) :: back) := hOwned.linked
        have hFind := hHead.findNode List.not_mem_nil hFound
        rw [checkSafe_old hAt hRead hOld hFind]
        refine iff_of_false (not_ownershipLaw_head hOwned hAt hRead hFound hOld) ?_
        exact fun hSafe => hSafe.1 hHead.seg.1
      · have hSplit := hOwned.linked
        rw [List.append_cons] at hSplit
        have hNotHead : s.heap.head ≠ some a := by
          obtain ⟨c, hC, hStart⟩ := hSplit.seg.start
          rw [hStart]
          rintro ⟨⟩
          exact hSplit.seg.apart.1 hC
        rw [checkSafe_old hAt hRead hOld (hSplit.findNode hFirst hFound),
          and_iff_right hNotHead]
        exact ownershipLaw_later_iff hLaw.running hOwned (hFound ▸ hFirst) hAt hRead hFound hOld

/-- In a list without repeated ids the node found is the one under the pass, so that a check is
safe only if the node is not old. -/
theorem checkSafe_iff_young {cells : List (Nat × Dtor)} (hLinked : s.heap.Linked cells)
    (hNodup : ((cells.map Prod.snd).map Dtor.id).Nodup) (hMem : p ∈ cells.map Prod.fst)
    (hAt : s.checker = some p) (hRead : s.heap.cell p = some node) :
    CheckSafe s now ↔ now - node.value.timestamp < HEART_BEAT_TIME := by
  obtain ⟨front, back, rfl⟩ := List.append_of_mem (hLinked.seg.mem_of_read hMem hRead)
  rw [List.map_append, List.map_cons] at hNodup
  have hFind := hLinked.findNode (Heartbeat.ids_apart hNodup).1 rfl
  constructor
  · intro hSafe
    by_contra hOld
    have hFound := hSafe p hAt node hRead (by omega) p (by rw [hFind]; rfl)
    exact hFound.2 rfl
  · exact checkSafe_young hAt hRead

theorem ownershipLaw_start {h : HeartbeatHeap} {cells : List (Nat × Dtor)}
    (hOwns : h.Owns cells) : OwnershipLaw (.start h) :=
  ⟨rfl, fun _ hHead => hOwns.linked.seg.start_allocated hHead, cells, hOwns, hOwns.count⟩

/-- A pass keeps the nodes in order if and only if it never comes to an old node whose id is
found at the head or at that node. -/
theorem ownershipLaw_always_iff {h : HeartbeatHeap} {cells : List (Nat × Dtor)}
    (hOwns : h.Owns cells) (nows : List Int) :
    Always check OwnershipLaw (.start h) nows ↔ Along check CheckSafe (.start h) nows :=
  always_iff_along (J := fun _ => True) (fun _ _ _ => trivial)
    (fun _ now _ hLaw => ownershipLaw_check_iff hLaw now) trivial (ownershipLaw_start hOwns)

def oneNode : HeartbeatHeap := HeartbeatHeap.empty.pushed 0 ⟨1, 0⟩

def twoNodes : HeartbeatHeap := oneNode.pushed 1 ⟨2, 5⟩

theorem oneNode_owns : oneNode.Owns [(0, ⟨1, 0⟩)] := empty_owns.pushed rfl ⟨1, 0⟩

theorem twoNodes_owns : twoNodes.Owns [(1, ⟨2, 5⟩), (0, ⟨1, 0⟩)] :=
  oneNode_owns.pushed (by decide) ⟨2, 5⟩

theorem two_young_nodes : Always check OwnershipLaw (.start twoNodes) [100, 200] :=
  (ownershipLaw_always_iff twoNodes_owns [100, 200]).mpr (by decide)

/-- The only node of a list falls silent: it is unlinked and never freed. The second node of two
falls silent: it is freed, and then its link is read. -/
theorem silent_node_leaked_or_reread :
    (oneNode.Owns [(0, ⟨1, 0⟩)] ∧
      ¬ Always check OwnershipLaw (.start oneNode) [HEART_BEAT_TIME]) ∧
    twoNodes.Owns [(1, ⟨2, 5⟩), (0, ⟨1, 0⟩)] ∧
      ¬ Always check OwnershipLaw (.start twoNodes) [HEART_BEAT_TIME, HEART_BEAT_TIME] := by
  refine ⟨⟨oneNode_owns, fun hRun => ?_⟩, twoNodes_owns, fun hRun => ?_⟩
  · have hSafe := (ownershipLaw_check_iff hRun.head HEART_BEAT_TIME).mp hRun.last
    revert hSafe
    decide
  · have hRead := hRun.last.running
    revert hRead
    decide

end Sweep

end FcomGateway
