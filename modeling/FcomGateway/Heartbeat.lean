import Mathlib.Data.List.Nodup
import Mathlib.Logic.Function.Basic

/-! # The heartbeat list of `alarm_task.c` as a list

What `add_state` and `pop_state` do to the list of `dtor` nodes when a task calls them on the
current head. The nodes, their addresses and stale heads are treated with the explicit heap.
-/

namespace FcomGateway

structure Dtor where
  id : Nat
  timestamp : Int
  deriving DecidableEq, Repr

def HEART_BEAT_TIME : Int := 0x141DD76000

namespace Heartbeat

/-- The search loop of `add_state`: the timestamp of the first node of that id is replaced. -/
def refresh (id : Nat) (timestamp : Int) : List Dtor → Option (List Dtor)
  | [] => none
  | node :: rest =>
    if node.id = id then some ({ node with timestamp := timestamp } :: rest)
    else (refresh id timestamp rest).map (node :: ·)

def addState (id : Nat) (timestamp : Int) (list : List Dtor) : List Dtor :=
  (refresh id timestamp list).getD (⟨id, timestamp⟩ :: list)

def popState (id : Nat) (list : List Dtor) : List Dtor :=
  list.eraseP fun node => node.id = id

/-! ## The list as a map from detectors to timestamps -/

theorem ne_of_not_mem_ids {id : Nat} {list : List Dtor} {node : Dtor}
    (h : id ∉ list.map Dtor.id) (hMem : node ∈ list) : node.id ≠ id := by
  rintro rfl
  exact h (List.mem_map_of_mem hMem)

theorem refresh_eq_none {id : Nat} {timestamp : Int} {list : List Dtor}
    (h : id ∉ list.map Dtor.id) : refresh id timestamp list = none := by
  induction list with
  | nil => rfl
  | cons node rest ih =>
    rw [List.map_cons, List.mem_cons, not_or] at h
    rw [refresh, if_neg (Ne.symm h.1), ih h.2, Option.map_none]

theorem refresh_append {id : Nat} {timestamp : Int} {front back : List Dtor} {node : Dtor}
    (hFront : id ∉ front.map Dtor.id) (hNode : node.id = id) :
    refresh id timestamp (front ++ node :: back) =
      some (front ++ ⟨id, timestamp⟩ :: back) := by
  induction front with
  | nil => rw [List.nil_append, refresh, if_pos hNode, hNode, List.nil_append]
  | cons other front ih =>
    rw [List.map_cons, List.mem_cons, not_or] at hFront
    rw [List.cons_append, refresh, if_neg (Ne.symm hFront.1), ih hFront.2, Option.map_some,
      List.cons_append]

theorem popState_of_not_mem {id : Nat} {list : List Dtor} (h : id ∉ list.map Dtor.id) :
    popState id list = list := by
  exact List.eraseP_of_forall_not fun node hMem hNode =>
    ne_of_not_mem_ids h hMem (of_decide_eq_true hNode)

theorem popState_append {id : Nat} {front back : List Dtor} {node : Dtor}
    (hFront : id ∉ front.map Dtor.id) (hNode : node.id = id) :
    popState id (front ++ node :: back) = front ++ back := by
  induction front with
  | nil => exact List.eraseP_cons_of_pos (by simpa using hNode)
  | cons other front ih =>
    rw [List.map_cons, List.mem_cons, not_or] at hFront
    rw [List.cons_append, popState, List.eraseP_cons_of_neg (by simpa using Ne.symm hFront.1)]
    exact congrArg (other :: ·) (ih hFront.2)

theorem split_at_id (id : Nat) (list : List Dtor) : id ∉ list.map Dtor.id ∨
    ∃ front node back, list = front ++ node :: back ∧ id ∉ front.map Dtor.id ∧ node.id = id := by
  induction list with
  | nil => exact Or.inl List.not_mem_nil
  | cons node rest ih =>
    by_cases hNode : node.id = id
    · exact Or.inr ⟨[], node, rest, rfl, List.not_mem_nil, hNode⟩
    · rcases ih with hNone | ⟨front, found, back, rfl, hFront, hFound⟩
      · refine Or.inl ?_
        rw [List.map_cons, List.mem_cons, not_or]
        exact ⟨Ne.symm hNode, hNone⟩
      · refine Or.inr ⟨node :: front, found, back, rfl, ?_, hFound⟩
        rw [List.map_cons, List.mem_cons, not_or]
        exact ⟨Ne.symm hNode, hFront⟩

/-- The list has one node for each id with a timestamp, and no other. -/
structure Tracks (list : List Dtor) (last : Nat → Option Int) : Prop where
  nodup : (list.map Dtor.id).Nodup
  mem : ∀ node, node ∈ list ↔ last node.id = some node.timestamp

theorem Tracks.nil : Tracks [] fun _ => none :=
  ⟨List.nodup_nil, fun _ => iff_of_false List.not_mem_nil nofun⟩

theorem Tracks.mem_ids {list : List Dtor} {last : Nat → Option Int} (h : Tracks list last)
    {id : Nat} : id ∈ list.map Dtor.id ↔ last id ≠ none := by
  rw [List.mem_map]
  constructor
  · rintro ⟨node, hNode, rfl⟩
    rw [(h.mem node).mp hNode]
    nofun
  · intro hLast
    obtain ⟨timestamp, hTime⟩ := Option.ne_none_iff_exists'.mp hLast
    exact ⟨⟨id, timestamp⟩, (h.mem _).mpr hTime, rfl⟩

theorem addState_ids (id : Nat) (timestamp : Int) (list : List Dtor) :
    (addState id timestamp list).map Dtor.id =
      if id ∈ list.map Dtor.id then list.map Dtor.id else id :: list.map Dtor.id := by
  rcases split_at_id id list with hNone | ⟨front, found, back, rfl, hFront, hFound⟩
  · rw [addState, refresh_eq_none hNone, if_neg hNone]
    rfl
  · rw [addState, refresh_append hFront hFound, if_pos (by simp [hFound])]
    simp [hFound]

/-- In a list without repeated ids, no other node has the id of a given one. -/
theorem ids_apart {front back : List Dtor} {node : Dtor}
    (hNodup : ((front ++ node :: back).map Dtor.id).Nodup) :
    node.id ∉ front.map Dtor.id ∧ node.id ∉ back.map Dtor.id ∧
      ((front ++ back).map Dtor.id).Nodup := by
  rw [List.map_append, List.map_cons, List.nodup_middle, List.nodup_cons, List.mem_append,
    not_or, ← List.map_append] at hNodup
  exact ⟨hNodup.1.1, hNodup.1.2, hNodup.2⟩

theorem mem_others {id : Nat} {front back : List Dtor} {found node : Dtor}
    (hNodup : ((front ++ found :: back).map Dtor.id).Nodup) (hFound : found.id = id) :
    node ∈ front ++ back ↔ node ∈ front ++ found :: back ∧ node.id ≠ id := by
  obtain ⟨hFront, hBack, _⟩ := ids_apart hNodup
  rw [hFound] at hFront hBack
  constructor
  · intro hMem
    refine ⟨List.mem_append.mpr ?_, ?_⟩
    · exact (List.mem_append.mp hMem).imp_right (List.mem_cons_of_mem found)
    · exact (List.mem_append.mp hMem).elim (ne_of_not_mem_ids hFront) (ne_of_not_mem_ids hBack)
  · rintro ⟨hMem, hOther⟩
    have hNe : node ≠ found := by
      rintro rfl
      exact hOther hFound
    simpa [hNe] using hMem

theorem mem_addState {id : Nat} {timestamp : Int} {list : List Dtor}
    (hNodup : (list.map Dtor.id).Nodup) {node : Dtor} :
    node ∈ addState id timestamp list ↔
      node = ⟨id, timestamp⟩ ∨ node ∈ list ∧ node.id ≠ id := by
  rcases split_at_id id list with hNone | ⟨front, found, back, rfl, hFront, hFound⟩
  · rw [addState, refresh_eq_none hNone, Option.getD_none, List.mem_cons]
    exact or_congr_right (and_iff_left_of_imp (ne_of_not_mem_ids hNone)).symm
  · rw [addState, refresh_append hFront hFound, Option.getD_some, ← mem_others hNodup hFound,
      List.mem_append, List.mem_cons, List.mem_append, or_left_comm]

theorem mem_popState {id : Nat} {list : List Dtor} (hNodup : (list.map Dtor.id).Nodup)
    {node : Dtor} : node ∈ popState id list ↔ node ∈ list ∧ node.id ≠ id := by
  rcases split_at_id id list with hNone | ⟨front, found, back, rfl, hFront, hFound⟩
  · rw [popState_of_not_mem hNone]
    exact (and_iff_left_of_imp (ne_of_not_mem_ids hNone)).symm
  · rw [popState_append hFront hFound, mem_others hNodup hFound]

theorem Tracks.addState {list : List Dtor} {last : Nat → Option Int} (h : Tracks list last)
    (id : Nat) (timestamp : Int) :
    Tracks (Heartbeat.addState id timestamp list)
      (Function.update last id (some timestamp)) := by
  refine ⟨?_, fun node => ?_⟩
  · rw [addState_ids]
    split
    · exact h.nodup
    · exact List.nodup_cons.mpr ⟨‹_›, h.nodup⟩
  · obtain ⟨other, time⟩ := node
    rw [mem_addState h.nodup, h.mem]
    by_cases hId : other = id
    · subst hId
      simp [eq_comm]
    · simp [hId]

theorem Tracks.popState {list : List Dtor} {last : Nat → Option Int} (h : Tracks list last)
    (id : Nat) : Tracks (Heartbeat.popState id list) (Function.update last id none) := by
  refine ⟨h.nodup.sublist (List.eraseP_sublist.map _), fun node => ?_⟩
  rw [mem_popState h.nodup, h.mem]
  by_cases hId : node.id = id
  · simp [hId]
  · simp [hId]

end Heartbeat

end FcomGateway
