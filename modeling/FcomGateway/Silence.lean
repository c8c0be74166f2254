import FcomGateway.HeartbeatSweep
import FcomGateway.System

/-! # Detectors that fall silent

Calls of `add_state` and whole passes of `Heartbeat_Task`, one after the other. A pass looks at
the nodes in list order, each with its own reading of the clock.
-/

namespace FcomGateway

open EventTrace LinkedHeap HeartbeatHeap

/-! ## A whole pass -/

/-- The pass over a list in memory; the list has at most `allocations` nodes. -/
def HeartbeatHeap.sweep (clock : Nat → Int) (h : HeartbeatHeap) : Sweep :=
  run Sweep.check (.start h) ((List.range h.allocations).map clock)

namespace Heartbeat

def Overdue (entry : Dtor × Int) : Prop := HEART_BEAT_TIME ≤ entry.2 - entry.1.timestamp

instance (entry : Dtor × Int) : Decidable (Overdue entry) := inferInstanceAs (Decidable (_ ≤ _))

/-- The detectors that are too old when their node is looked at, and the nodes that are not. -/
def silent (list : List Dtor) (nows : List Int) : List Nat :=
  ((list.zip nows).filter Overdue).map fun entry => entry.1.id

def heard (list : List Dtor) (nows : List Int) : List Dtor :=
  ((list.zip nows).filter fun entry => ¬ Overdue entry).map Prod.fst

section Cons

variable {node : Dtor} {now : Int} {rest : List Dtor} {nows : List Int}

theorem silent_cons_old (hOld : Overdue (node, now)) :
    silent (node :: rest) (now :: nows) = node.id :: silent rest nows := by
  simp [silent, hOld]

theorem silent_cons_young (hYoung : ¬ Overdue (node, now)) :
    silent (node :: rest) (now :: nows) = silent rest nows := by
  simp [silent, hYoung]

theorem heard_cons_old (hOld : Overdue (node, now)) :
    heard (node :: rest) (now :: nows) = heard rest nows := by
  simp [heard, hOld]

theorem heard_cons_young (hYoung : ¬ Overdue (node, now)) :
    heard (node :: rest) (now :: nows) = node :: heard rest nows := by
  simp [heard, hYoung]

end Cons

end Heartbeat

namespace Sweep

open Heartbeat

/-- The pass has kept `kept` and is at the first node of `rest`. -/
structure Walking (s : Sweep) (kept rest : List (Nat × Dtor)) : Prop where
  linked : s.heap.Linked (kept ++ rest)
  checker : Seg s.heap.cell s.checker rest none

theorem Walking.young {s : Sweep} {kept rest : List (Nat × Dtor)} {p : Nat} {node : Dtor}
    {now : Int} (h : s.Walking kept ((p, node) :: rest)) (hYoung : ¬ Overdue (node, now)) :
    (s.check now).Walking (kept ++ [(p, node)]) rest ∧ (s.check now).posted = s.posted := by
  obtain ⟨hLinked, hAt, next, hRead, hRest⟩ := h
  have hAge : now - node.timestamp < HEART_BEAT_TIME := Int.not_le.mp hYoung
  rw [check_young hAt hRead hAge]
  refine ⟨⟨?_, hRest⟩, rfl⟩
  rw [← List.append_cons]
  exact hLinked

/-- An old node is popped; the pass goes on along the link that the node had. -/
theorem Walking.old {s : Sweep} {kept rest : List (Nat × Dtor)} {p : Nat} {node : Dtor}
    {now : Int} (h : s.Walking kept ((p, node) :: rest))
    (hFirst : node.id ∉ (kept.map Prod.snd).map Dtor.id) (hOld : Overdue (node, now)) :
    (s.check now).Walking kept rest ∧ (s.check now).posted = s.posted ++ [node.id] := by
  obtain ⟨hLinked, hAt, next, hRead, hRest⟩ := h
  rcases List.eq_nil_or_concat kept with rfl | ⟨front, ⟨b, before⟩, rfl⟩
  · obtain ⟨head, hExpire, hBack⟩ := expire_head hLinked
    rcases check_old hAt hRead hOld with ⟨found, hFound, hCheck⟩ | ⟨hGone, _⟩
    · rw [hExpire] at hFound hCheck
      obtain rfl : ⟨node, next⟩ = found := Option.some.inj (hRead.symm.trans hFound)
      rw [hCheck]
      exact ⟨⟨⟨hBack, Nat.le_of_succ_le hLinked.bound⟩, hRest⟩, rfl⟩
    · rw [hExpire] at hGone
      cases hRead.symm.trans hGone
  · rw [List.concat_eq_append] at hLinked hFirst ⊢
    rw [List.append_assoc] at hLinked
    have hBound := hLinked.bound
    obtain ⟨cell, hExpire, hSeg, hFreed⟩ := expire_later hLinked hFirst
    have hGone : cell p = none := (hFreed p).mpr (Or.inl rfl)
    rcases check_old hAt hRead hOld with ⟨found, hFound, _⟩ | ⟨_, hCheck⟩
    · rw [hExpire] at hFound
      cases hGone.symm.trans hFound
    · rw [hCheck, hExpire]
      obtain ⟨_, _, _, next', _, hBack⟩ := seg_append.mp hSeg
      obtain rfl : next' = next := hBack.same_start hRest
      have hKept : Seg cell s.heap.head (front ++ [(b, before)] ++ rest) none := by
        rw [List.append_assoc]
        exact hSeg
      refine ⟨⟨⟨hKept, ?_⟩, hBack⟩, rfl⟩
      simp only [List.length_append, List.length_cons, List.length_nil] at hBound ⊢
      omega

theorem run_at_end {s : Sweep} (hEnd : s.checker = none) (nows : List Int) :
    EventTrace.run check s nows = s := by
  induction nows with
  | nil => rfl
  | cons now nows ih =>
    rw [run_cons, show s.check now = s by rw [check, hEnd]]
    exact ih

theorem Walking.run {s : Sweep} {kept rest : List (Nat × Dtor)} (h : s.Walking kept rest)
    (hNodup : (((kept ++ rest).map Prod.snd).map Dtor.id).Nodup) {nows : List Int}
    (hReadings : rest.length ≤ nows.length) :
    (EventTrace.run check s nows).checker = none ∧
    (EventTrace.run check s nows).posted = s.posted ++ silent (rest.map Prod.snd) nows ∧
    (EventTrace.run check s nows).heap.Holds
      (kept.map Prod.snd ++ heard (rest.map Prod.snd) nows) := by
  induction rest generalizing s kept nows with
  | nil =>
    rw [run_at_end h.checker]
    refine ⟨h.checker, (List.append_nil _).symm, ?_⟩
    have hHolds := h.linked.holds
    rw [List.append_nil] at hHolds
    rw [List.map_nil, heard, List.zip_nil_left, List.filter_nil, List.map_nil, List.append_nil]
    exact hHolds
  | cons cell rest ih =>
    obtain ⟨p, node⟩ := cell
    cases nows with
    | nil => cases hReadings
    | cons now nows =>
      have hRest : rest.length ≤ nows.length := Nat.le_of_succ_le_succ hReadings
      rw [run_cons, List.map_cons]
      by_cases hOld : Overdue (node, now)
      · rw [List.map_append, List.map_cons] at hNodup
        obtain ⟨hFirst, _, hShorter⟩ := ids_apart hNodup
        rw [← List.map_append] at hShorter
        obtain ⟨hWalk, hPosted⟩ := h.old hFirst hOld
        obtain ⟨hEnd, hAll, hHolds⟩ := ih hWalk hShorter hRest
        refine ⟨hEnd, ?_, ?_⟩
        · rw [hAll, hPosted, List.append_assoc, silent_cons_old hOld]
          rfl
        · rw [heard_cons_old hOld]
          exact hHolds
      · obtain ⟨hWalk, hPosted⟩ := h.young hOld
        have hSame : (((kept ++ [(p, node)] ++ rest).map Prod.snd).map Dtor.id).Nodup := by
          rw [← List.append_cons]
          exact hNodup
        obtain ⟨hEnd, hAll, hHolds⟩ := ih hWalk hSame hRest
        refine ⟨hEnd, ?_, ?_⟩
        · rw [hAll, hPosted, silent_cons_young hOld]
        · rw [heard_cons_young hOld]
          rw [List.map_append, List.append_assoc] at hHolds
          exact hHolds

end Sweep

/-- A whole pass comes to the end of the list, posts for the silent detectors in list order and
leaves the others as they are. -/
theorem HeartbeatHeap.Holds.sweep {h : HeartbeatHeap} {list : List Dtor} (hHolds : h.Holds list)
    (hNodup : (list.map Dtor.id).Nodup) (clock : Nat → Int) :
    (h.sweep clock).checker = none ∧
    (h.sweep clock).posted =
      Heartbeat.silent list ((List.range h.allocations).map clock) ∧
    (h.sweep clock).heap.Holds
      (Heartbeat.heard list ((List.range h.allocations).map clock)) := by
  obtain ⟨⟨cells, hSeg, rfl⟩, hBound⟩ := hHolds
  rw [List.length_map] at hBound
  have hStart : (Sweep.start h).Walking [] cells := ⟨⟨hSeg, hBound⟩, hSeg⟩
  have hReadings : cells.length ≤ ((List.range h.allocations).map clock).length := by
    rw [List.length_map, List.length_range]
    exact hBound
  exact hStart.run hNodup hReadings

/-! ## The nodes of a pass and their readings -/

namespace Heartbeat

section Readings

variable {list : List Dtor} {clock : Nat → Int} {n : Nat}

/-- The node at position `i` is looked at with the reading `clock i`. -/
theorem mem_readings (hLength : list.length ≤ n) {entry : Dtor × Int} :
    entry ∈ list.zip ((List.range n).map clock) ↔
      ∃ i : Nat, list[i]? = some entry.1 ∧ entry.2 = clock i := by
  rw [List.mem_iff_getElem?]
  refine exists_congr fun i => ?_
  rw [List.getElem?_zip_eq_some]
  refine and_congr_right fun hNode => ?_
  have hIndex : i < n := by
    have hBound := (List.getElem?_eq_some_iff.mp hNode).1
    omega
  rw [List.getElem?_map, List.getElem?_range hIndex, Option.map_some, Option.some.injEq, eq_comm]

theorem mem_silent (hLength : list.length ≤ n) {d : Nat} :
    d ∈ silent list ((List.range n).map clock) ↔
      ∃ (i : Nat) (node : Dtor), list[i]? = some node ∧ node.id = d ∧
        Overdue (node, clock i) := by
  simp only [silent, List.mem_map, List.mem_filter, mem_readings hLength, decide_eq_true_eq]
  constructor
  · rintro ⟨⟨node, now⟩, ⟨⟨i, hNode, rfl⟩, hSilent⟩, hId⟩
    exact ⟨i, node, hNode, hId, hSilent⟩
  · rintro ⟨i, node, hNode, hId, hSilent⟩
    exact ⟨(node, clock i), ⟨⟨i, hNode, rfl⟩, hSilent⟩, hId⟩

theorem mem_heard (hLength : list.length ≤ n) {node : Dtor} :
    node ∈ heard list ((List.range n).map clock) ↔
      ∃ i : Nat, list[i]? = some node ∧ ¬ Overdue (node, clock i) := by
  simp only [heard, List.mem_map, List.mem_filter, mem_readings hLength, decide_eq_true_eq]
  constructor
  · rintro ⟨⟨node, now⟩, ⟨⟨i, hNode, rfl⟩, hHeard⟩, rfl⟩
    exact ⟨i, hNode, hHeard⟩
  · rintro ⟨i, hNode, hHeard⟩
    exact ⟨(node, clock i), ⟨⟨i, hNode, rfl⟩, hHeard⟩, rfl⟩

theorem zip_fst_sublist (nows : List Int) : ((list.zip nows).map Prod.fst).Sublist list := by
  induction list generalizing nows with
  | nil => exact List.Sublist.refl []
  | cons node rest ih =>
    cases nows with
    | nil => exact List.nil_sublist _
    | cons now nows => exact (ih nows).cons_cons node

theorem silent_nodup (hNodup : (list.map Dtor.id).Nodup) (nows : List Int) :
    (silent list nows).Nodup := by
  have hIds : silent list nows =
      (((list.zip nows).filter Overdue).map Prod.fst).map Dtor.id := by
    rw [silent, List.map_map]
    rfl
  rw [hIds]
  exact hNodup.sublist (((List.filter_sublist.map _).trans (zip_fst_sublist nows)).map _)

theorem heard_nodup (hNodup : (list.map Dtor.id).Nodup) (nows : List Int) :
    ((heard list nows).map Dtor.id).Nodup :=
  hNodup.sublist (((List.filter_sublist.map _).trans (zip_fst_sublist nows)).map _)

theorem index_unique (hNodup : (list.map Dtor.id).Nodup) {i j : Nat} {a b : Dtor}
    (hA : list[i]? = some a) (hB : list[j]? = some b) (hId : a.id = b.id) : i = j := by
  have hIndex : i < (list.map Dtor.id).length := by
    rw [List.length_map]
    exact (List.getElem?_eq_some_iff.mp hA).1
  rw [← List.getElem?_inj hIndex hNodup, List.getElem?_map, List.getElem?_map, hA, hB,
    Option.map_some, Option.map_some, hId]

theorem not_silent_of_heard (hNodup : (list.map Dtor.id).Nodup) (hLength : list.length ≤ n)
    {node : Dtor} (hHeard : node ∈ heard list ((List.range n).map clock)) :
    node.id ∉ silent list ((List.range n).map clock) := by
  obtain ⟨i, hNode, hYoung⟩ := (mem_heard hLength).mp hHeard
  intro hSilent
  obtain ⟨j, other, hOther, hId, hOld⟩ := (mem_silent hLength).mp hSilent
  obtain rfl := index_unique hNodup hOther hNode hId
  obtain rfl : other = node := Option.some.inj (hOther.symm.trans hNode)
  exact hYoung hOld

end Readings

end Heartbeat

/-! ## Runs -/

/-- `lastAdd` is the time of the last `add_state` of a detector; `reported` counts the sends of
`SS_ERROR_FLAG` for it since then. -/
structure Watch where
  heap : HeartbeatHeap
  lastAdd : Nat → Option Int
  reported : Nat → Nat

inductive WatchAction
  | add (id : Nat) (now : Int) (malloc : Option Nat)
  | sweep (clock : Nat → Int)

namespace Watch

def start : Watch where
  heap := .empty
  lastAdd _ := none
  reported _ := 0

def step (s : Watch) : WatchAction → Watch
  | .add id now malloc =>
    match s.heap.call (.add id now malloc) with
    | some heap =>
      { heap := heap
        lastAdd := Function.update s.lastAdd id (some now)
        reported := Function.update s.reported id 0 }
    | none => s
  | .sweep clock =>
    { s with
      heap := (s.heap.sweep clock).heap
      reported := fun d => s.reported d + (s.heap.sweep clock).posted.count d }

end Watch

/-- A pass comes to its end; it reports exactly the detectors of the list whose last `add_state`
is `HEART_BEAT_TIME` or more ago when their node is looked at, none of them again, and the
others keep their entries. -/
structure PassLaw (s : Watch) (clock : Nat → Int) (list list' : List Dtor) : Prop where
  before : s.heap.contents = some list
  after : (s.step (.sweep clock)).heap.contents = some list'
  complete : (s.heap.sweep clock).checker = none
  reports : ∀ d, d ∈ (s.heap.sweep clock).posted ↔ ∃ (i : Nat) (node : Dtor) (last : Int),
    list[i]? = some node ∧ node.id = d ∧ s.lastAdd d = some last ∧
      HEART_BEAT_TIME ≤ clock i - last
  once : ∀ d, (s.step (.sweep clock)).reported d ≤ 1
  keeps : ∀ (i : Nat) (node : Dtor) (last : Int), list[i]? = some node →
    s.lastAdd node.id = some last → clock i - last < HEART_BEAT_TIME →
      node ∈ list' ∧ node.timestamp = last

def SilenceLaw (s : Watch) : WatchAction → Prop
  | .add id now malloc => (s.heap.call (.add id now malloc)).isSome
  | .sweep clock => ∃ list list', PassLaw s clock list list'

/-- What the list says about a detector is its last `add_state`, and a detector of the list has
not been reported since. -/
structure WatchInv (s : Watch) (list : List Dtor) : Prop where
  holds : s.heap.Holds list
  nodup : (list.map Dtor.id).Nodup
  last : ∀ node ∈ list, s.lastAdd node.id = some node.timestamp
  fresh : ∀ node ∈ list, s.reported node.id = 0
  once : ∀ d, s.reported d ≤ 1

theorem WatchInv.start : WatchInv .start [] where
  holds := empty_holds
  nodup := List.nodup_nil
  last _ h := absurd h List.not_mem_nil
  fresh _ h := absurd h List.not_mem_nil
  once _ := Nat.zero_le 1

/-- Without memory for a new node `add_state` leaves the list as it is. -/
theorem HeartbeatHeap.Holds.call_add {h : HeartbeatHeap} {list : List Dtor}
    (hHolds : h.Holds list) (id : Nat) (now : Int) (malloc : Option Nat) :
    ∃ next, h.call (.add id now malloc) = some next ∧
      (next.Holds (Heartbeat.addState id now list) ∨
        id ∉ list.map Dtor.id ∧ next.Holds list) := by
  by_cases hMalloc : id ∉ list.map Dtor.id → ∃ a, malloc = some a ∧ h.cell a = none
  · obtain ⟨next, hCall, hNext⟩ := addState_holds hHolds now hMalloc
    exact ⟨next, congrArg (Option.map Prod.snd) hCall, Or.inl hNext⟩
  · obtain ⟨hNew, hNoMemory⟩ := Classical.not_imp.mp hMalloc
    have hFind := hHolds.findNode_new hNew
    have hPush : h.pushState h.head id now malloc = (h.head, h) := by
      unfold pushState
      cases malloc with
      | none => rfl
      | some a =>
        dsimp only
        rw [if_neg fun hFree => hNoMemory ⟨a, rfl, hFree⟩]
    refine ⟨h, ?_, Or.inr ⟨hNew, hHolds⟩⟩
    simp [HeartbeatHeap.call, getHead, HeartbeatHeap.addState, hFind, hPush, setHead]

theorem WatchInv.add {s : Watch} {list : List Dtor} (h : WatchInv s list) (id : Nat) (now : Int)
    (malloc : Option Nat) : (s.heap.call (.add id now malloc)).isSome ∧
      ∃ list', WatchInv (s.step (.add id now malloc)) list' := by
  obtain ⟨hHolds, hNodup, hLast, hFresh, hOnce⟩ := h
  have hReset : ∀ d, Function.update s.reported id 0 d ≤ 1 := by
    intro d
    by_cases hD : d = id
    · simp [hD]
    · simp [hD, hOnce d]
  have hOthers : ∀ node ∈ list, node.id ≠ id →
      Function.update s.lastAdd id (some now) node.id = some node.timestamp ∧
        Function.update s.reported id 0 node.id = 0 := by
    intro node hNode hOther
    rw [Function.update_of_ne hOther, Function.update_of_ne hOther]
    exact ⟨hLast node hNode, hFresh node hNode⟩
  obtain ⟨next, hCall, hNext⟩ := hHolds.call_add id now malloc
  refine ⟨by rw [hCall]; rfl, ?_⟩
  simp only [Watch.step, hCall]
  rcases hNext with hAdded | ⟨hNew, hSame⟩
  · have hEntry : ∀ node ∈ Heartbeat.addState id now list,
        Function.update s.lastAdd id (some now) node.id = some node.timestamp ∧
          Function.update s.reported id 0 node.id = 0 := by
      intro node hNode
      rcases (Heartbeat.mem_addState hNodup).mp hNode with rfl | ⟨hOld, hOther⟩
      · exact ⟨Function.update_self .., Function.update_self ..⟩
      · exact hOthers node hOld hOther
    refine ⟨_, hAdded, ?_, fun node hNode => (hEntry node hNode).1,
      fun node hNode => (hEntry node hNode).2, hReset⟩
    rw [Heartbeat.addState_ids]
    split
    · exact hNodup
    · exact List.nodup_cons.mpr ⟨‹_›, hNodup⟩
  · have hEntry : ∀ node ∈ list, node.id ≠ id := fun node hNode =>
      Heartbeat.ne_of_not_mem_ids hNew hNode
    exact ⟨list, hSame, hNodup, fun node hNode => (hOthers node hNode (hEntry node hNode)).1,
      fun node hNode => (hOthers node hNode (hEntry node hNode)).2, hReset⟩

section Pass

variable {s : Watch} {list : List Dtor}

theorem WatchInv.reports (h : WatchInv s list) (clock : Nat → Int) {d : Nat} :
    d ∈ (s.heap.sweep clock).posted ↔ ∃ (i : Nat) (node : Dtor) (last : Int),
      list[i]? = some node ∧ node.id = d ∧ s.lastAdd d = some last ∧
        HEART_BEAT_TIME ≤ clock i - last := by
  rw [(h.holds.sweep h.nodup clock).2.1, Heartbeat.mem_silent h.holds.bound]
  refine exists_congr fun i => exists_congr fun node => ?_
  constructor
  · rintro ⟨hNode, rfl, hOld⟩
    exact ⟨node.timestamp, hNode, rfl, h.last node (List.mem_of_getElem? hNode), hOld⟩
  · rintro ⟨last, hNode, rfl, hTime, hOld⟩
    rw [h.last node (List.mem_of_getElem? hNode), Option.some.injEq] at hTime
    refine ⟨hNode, rfl, ?_⟩
    rw [Heartbeat.Overdue, hTime]
    exact hOld

theorem WatchInv.reported_le (h : WatchInv s list) (clock : Nat → Int) (d : Nat) :
    (s.step (.sweep clock)).reported d ≤ 1 := by
  change s.reported d + (s.heap.sweep clock).posted.count d ≤ 1
  by_cases hMem : d ∈ (s.heap.sweep clock).posted
  · obtain ⟨i, node, _, hNode, rfl, _⟩ := (h.reports clock).mp hMem
    have hZero := h.fresh node (List.mem_of_getElem? hNode)
    have hOnce : (s.heap.sweep clock).posted.count node.id ≤ 1 := by
      rw [(h.holds.sweep h.nodup clock).2.1]
      exact List.nodup_iff_count.mp (Heartbeat.silent_nodup h.nodup _) node.id
    omega
  · rw [List.count_eq_zero_of_not_mem hMem]
    exact h.once d

theorem WatchInv.keeps (h : WatchInv s list) (clock : Nat → Int) {i : Nat} {node : Dtor}
    {last : Int} (hNode : list[i]? = some node) (hTime : s.lastAdd node.id = some last)
    (hYoung : clock i - last < HEART_BEAT_TIME) :
    node ∈ Heartbeat.heard list ((List.range s.heap.allocations).map clock) ∧
      node.timestamp = last := by
  rw [h.last node (List.mem_of_getElem? hNode), Option.some.injEq] at hTime
  refine ⟨(Heartbeat.mem_heard h.holds.bound).mpr ⟨i, hNode, ?_⟩, hTime⟩
  rw [Heartbeat.Overdue, hTime, not_le]
  exact hYoung

theorem WatchInv.sweep (h : WatchInv s list) (clock : Nat → Int) :
    WatchInv (s.step (.sweep clock))
        (Heartbeat.heard list ((List.range s.heap.allocations).map clock)) := by
  obtain ⟨_, hPosted, hAfter⟩ := h.holds.sweep h.nodup clock
  have hKept : ∀ node ∈ Heartbeat.heard list ((List.range s.heap.allocations).map clock),
      node ∈ list := by
    intro node hNode
    obtain ⟨i, hAt, _⟩ := (Heartbeat.mem_heard h.holds.bound).mp hNode
    exact List.mem_of_getElem? hAt
  refine ⟨hAfter, Heartbeat.heard_nodup h.nodup _, fun node hNode => h.last node (hKept node hNode),
    fun node hNode => ?_, h.reported_le clock⟩
  have hNot := Heartbeat.not_silent_of_heard h.nodup h.holds.bound hNode
  rw [← hPosted] at hNot
  simp only [Watch.step, List.count_eq_zero_of_not_mem hNot, Nat.add_zero]
  exact h.fresh node (hKept node hNode)

theorem WatchInv.passLaw (h : WatchInv s list) (clock : Nat → Int) :
    PassLaw s clock list (Heartbeat.heard list ((List.range s.heap.allocations).map clock)) where
  before := h.holds.contents
  after := (h.sweep clock).holds.contents
  complete := (h.holds.sweep h.nodup clock).1
  reports _ := h.reports clock
  once := h.reported_le clock
  keeps _ _ _ := h.keeps clock

end Pass

/-- In every run of `add_state` calls and whole passes, with any memory and any clock, each pass
reports exactly the detectors that have fallen silent. -/
theorem silence_detected (actions : List WatchAction) :
    Along Watch.step SilenceLaw .start actions := by
  suffices hRun : ∀ (actions : List WatchAction) (s : Watch) (list : List Dtor),
      WatchInv s list → Along Watch.step SilenceLaw s actions from
    hRun actions .start [] .start
  intro actions
  induction actions with
  | nil => exact fun _ _ _ => trivial
  | cons action rest ih =>
    intro s list hInv
    cases action with
    | add id now malloc =>
      obtain ⟨hDefined, list', hNext⟩ := hInv.add id now malloc
      exact ⟨hDefined, ih _ list' hNext⟩
    | sweep clock =>
      exact ⟨⟨list, _, hInv.passLaw clock⟩, ih _ _ (hInv.sweep clock)⟩

/-! ## The pass as events of the gateway -/

/-- The checks of a pass as the gateway model makes them. -/
def passEvents (list : List Dtor) (nows : List Int) : List Event :=
  (list.zip nows).map fun entry => .heartbeat entry.2 entry.1.id

theorem checkHeartbeat_heartbeat {g : Gateway} {kept rest : List Dtor} {node : Dtor}
    (hList : g.heartbeat = kept ++ node :: rest) (hFirst : node.id ∉ kept.map Dtor.id)
    (now : Int) : (checkHeartbeat now node.id g).heartbeat =
      if Heartbeat.Overdue (node, now) then kept ++ rest else g.heartbeat := by
  have hFind : g.heartbeat.find? (fun other => other.id = node.id) = some node := by
    rw [hList, List.find?_append, List.find?_eq_none.mpr, Option.none_or,
      List.find?_cons_of_pos (by simp)]
    intro other hOther
    simpa using Heartbeat.ne_of_not_mem_ids hFirst hOther
  rw [checkHeartbeat, hFind]
  dsimp only
  by_cases hOld : Heartbeat.Overdue (node, now)
  · rw [if_pos hOld, if_pos (ge_iff_le.mpr hOld)]
    dsimp only [xQueueSend]
    rw [hList, Heartbeat.popState_append hFirst rfl]
  · rw [if_neg hOld, if_neg fun h => hOld (ge_iff_le.mp h)]

theorem run_passEvents {g : Gateway} {kept rest : List Dtor} (hList : g.heartbeat = kept ++ rest)
    (hNodup : ((kept ++ rest).map Dtor.id).Nodup) {nows : List Int}
    (hReadings : rest.length ≤ nows.length) :
    (run step g (passEvents rest nows)).heartbeat = kept ++ Heartbeat.heard rest nows := by
  induction rest generalizing g kept nows with
  | nil => exact hList
  | cons node rest ih =>
    cases nows with
    | nil => cases hReadings
    | cons now nows =>
      have hRest : rest.length ≤ nows.length := Nat.le_of_succ_le_succ hReadings
      obtain ⟨hFirst, _, hShorter⟩ := Heartbeat.ids_apart hNodup
      have hCheck := checkHeartbeat_heartbeat hList hFirst now
      rw [passEvents, List.zip_cons_cons, List.map_cons, run_cons]
      by_cases hOld : Heartbeat.Overdue (node, now)
      · rw [if_pos hOld] at hCheck
        rw [Heartbeat.heard_cons_old hOld]
        exact ih hCheck hShorter hRest
      · rw [if_neg hOld, hList, List.append_cons] at hCheck
        rw [List.append_cons] at hNodup
        rw [Heartbeat.heard_cons_young hOld, List.append_cons]
        exact ih hCheck hNodup hRest

/-- A whole pass over the list in memory leaves the list that the heartbeat events of the
gateway leave. -/
theorem sweep_gateway {h : HeartbeatHeap} {g : Gateway} (hHolds : h.Holds g.heartbeat)
    (hNodup : (g.heartbeat.map Dtor.id).Nodup) (clock : Nat → Int) :
    (h.sweep clock).heap.Holds
      (run step g (passEvents g.heartbeat ((List.range h.allocations).map clock))).heartbeat := by
  have hReadings : g.heartbeat.length ≤ ((List.range h.allocations).map clock).length := by
    rw [List.length_map, List.length_range]
    exact hHolds.bound
  have hAll : g.heartbeat = [] ++ g.heartbeat := rfl
  rw [run_passEvents hAll hNodup hReadings]
  exact (hHolds.sweep hNodup clock).2.2

end FcomGateway
