import FcomGateway.Library.EventTrace
import FcomGateway.HeartbeatHeap

/-! # The heartbeat list as a finite map

Sequences of `get_head` followed by `add_state` or `pop_state`, one call after the other, on the
list in memory; against them insertion and deletion in a map from detectors to timestamps.
-/

namespace FcomGateway

open EventTrace

inductive StoreOp
  | add (id : Nat) (timestamp : Int) (malloc : Option Nat)
  | pop (id : Nat)
  deriving DecidableEq, Repr

/-- Insertion, overwriting what is there, and deletion. -/
def StoreOp.onMap (last : Nat → Option Int) : StoreOp → Nat → Option Int
  | .add id timestamp _ => Function.update last id (some timestamp)
  | .pop id => Function.update last id none

def StoreOp.onList (list : List Dtor) : StoreOp → List Dtor
  | .add id timestamp _ => Heartbeat.addState id timestamp list
  | .pop id => Heartbeat.popState id list

namespace HeartbeatHeap

/-- The call on a fresh copy of the head. -/
def call (h : HeartbeatHeap) : StoreOp → Option HeartbeatHeap
  | .add id timestamp malloc => (h.addState h.getHead id timestamp malloc).map Prod.snd
  | .pop id => (h.popState h.getHead id).map Prod.snd

/-- After a call without a defined result there is no state. -/
def storeStep (s : Option HeartbeatHeap) (op : StoreOp) : Option HeartbeatHeap :=
  s.bind fun h => h.call op

/-- `malloc`, which is called for a new detector, returns the address of a free cell. -/
def MallocSucceeds (s : Option HeartbeatHeap) : StoreOp → Prop
  | .add id _ malloc => ∀ h ∈ s, ∀ list ∈ h.contents, id ∉ list.map Dtor.id →
      (malloc.any fun a => (h.cell a).isNone) = true
  | .pop _ => True

instance (s : Option HeartbeatHeap) (op : StoreOp) : Decidable (MallocSucceeds s op) := by
  cases op <;> unfold MallocSucceeds <;> infer_instance

end HeartbeatHeap

namespace Heartbeat

def lookup (list : List Dtor) (id : Nat) : Option Int :=
  (list.find? fun node => node.id = id).map Dtor.timestamp

theorem Tracks.lookup {list : List Dtor} {last : Nat → Option Int} (h : Tracks list last) :
    lookup list = last := by
  funext id
  rw [Heartbeat.lookup]
  cases hFind : list.find? fun node => node.id = id with
  | none =>
    symm
    rw [Option.map_none]
    by_contra hLast
    obtain ⟨timestamp, hTime⟩ := Option.ne_none_iff_exists'.mp hLast
    have hNode : (⟨id, timestamp⟩ : Dtor) ∈ list := (h.mem ⟨id, timestamp⟩).mpr hTime
    exact List.find?_eq_none.mp hFind _ hNode (decide_eq_true rfl)
  | some node =>
    have hId : node.id = id := by simpa using List.find?_some hFind
    have hLast := (h.mem node).mp (List.mem_of_find?_eq_some hFind)
    rw [hId] at hLast
    exact hLast.symm

/-- Wherever the entry stands, the others keep their places. -/
theorem popState_eq_filter {list : List Dtor} (hNodup : (list.map Dtor.id).Nodup) (id : Nat) :
    popState id list = list.filter fun node => node.id ≠ id := by
  rcases split_at_id id list with hNone | ⟨front, found, back, rfl, hFront, hFound⟩
  · rw [popState_of_not_mem hNone, List.filter_eq_self.mpr]
    intro node hMem
    simpa using ne_of_not_mem_ids hNone hMem
  · have hBack : id ∉ back.map Dtor.id := hFound ▸ (ids_apart hNodup).2.1
    rw [popState_append hFront hFound, List.filter_append, List.filter_cons_of_neg (by simpa),
      List.filter_eq_self.mpr, List.filter_eq_self.mpr]
    · intro node hMem
      simpa using ne_of_not_mem_ids hBack hMem
    · intro node hMem
      simpa using ne_of_not_mem_ids hFront hMem

end Heartbeat

namespace HeartbeatHeap

theorem Holds.call {h : HeartbeatHeap} {list : List Dtor} (hHolds : h.Holds list) {op : StoreOp}
    (hMalloc : MallocSucceeds (some h) op) :
    ∃ next, h.call op = some next ∧ next.Holds (op.onList list) := by
  cases op with
  | add id timestamp malloc =>
    have hFree : id ∉ list.map Dtor.id → ∃ a, malloc = some a ∧ h.cell a = none := by
      intro hNew
      have hAny := hMalloc h rfl list hHolds.contents hNew
      rw [Option.any_eq_true] at hAny
      obtain ⟨a, hSome, hFree⟩ := hAny
      exact ⟨a, hSome, Option.isNone_iff_eq_none.mp hFree⟩
    obtain ⟨next, hCall, hNext⟩ := addState_holds hHolds timestamp hFree
    exact ⟨next, congrArg (Option.map Prod.snd) hCall, hNext⟩
  | pop id =>
    obtain ⟨next, hCall, hNext⟩ := popState_holds hHolds id
    exact ⟨next, congrArg (Option.map Prod.snd) hCall, hNext⟩

theorem tracks_onList {list : List Dtor} {last : Nat → Option Int}
    (hTracks : Heartbeat.Tracks list last) (op : StoreOp) :
    Heartbeat.Tracks (op.onList list) (op.onMap last) := by
  cases op with
  | add id timestamp malloc => exact hTracks.addState id timestamp
  | pop id => exact hTracks.popState id

theorem run_tracks {h : HeartbeatHeap} {list : List Dtor} {last : Nat → Option Int}
    (hHolds : h.Holds list) (hTracks : Heartbeat.Tracks list last) {ops : List StoreOp}
    (hMalloc : Along storeStep MallocSucceeds (some h) ops) :
    ∃ next list', run storeStep (some h) ops = some next ∧ next.Holds list' ∧
      Heartbeat.Tracks list' (ops.foldl StoreOp.onMap last) := by
  induction ops generalizing h list last with
  | nil => exact ⟨h, list, rfl, hHolds, hTracks⟩
  | cons op rest ih =>
    obtain ⟨next, hCall, hNext⟩ := hHolds.call hMalloc.1
    have hStep : storeStep (some h) op = some next := hCall
    have hRest := hMalloc.2
    rw [hStep] at hRest
    rw [run_cons, hStep]
    exact ih hNext (tracks_onList hTracks op) hRest

/-- The heartbeat list is a finite map: no detector stands in it twice, the timestamps are those
of insertion and deletion in a map, and a further `pop_state` takes out its entry, wherever it
stands, and leaves the rest of the list as it is. -/
theorem store_refines_map (ops : List StoreOp)
    (hMalloc : Along storeStep MallocSucceeds (some .empty) ops) :
    ∃ h list, run storeStep (some .empty) ops = some h ∧ h.contents = some list ∧
      (list.map Dtor.id).Nodup ∧
      Heartbeat.lookup list = ops.foldl StoreOp.onMap (fun _ => none) ∧
      ∀ id, (h.call (.pop id)).bind contents = some (list.filter fun node => node.id ≠ id) := by
  obtain ⟨h, list, hRun, hHolds, hTracks⟩ :=
    run_tracks empty_holds Heartbeat.Tracks.nil hMalloc
  refine ⟨h, list, hRun, hHolds.contents, hTracks.nodup, hTracks.lookup, fun id => ?_⟩
  have hPop : MallocSucceeds (some h) (.pop id) := trivial
  obtain ⟨next, hCall, hNext⟩ := hHolds.call hPop
  rw [hCall, Option.bind_some, hNext.contents]
  exact congrArg some (Heartbeat.popState_eq_filter hTracks.nodup id)

theorem store_refines_map_three : ∃ h list,
    run storeStep (some .empty)
      [.add 1 10 (some 0), .add 2 20 (some 1), .add 3 30 (some 2), .pop 2, .add 1 40 none] =
        some h ∧
      h.contents = some list ∧ (list.map Dtor.id).Nodup ∧
      Heartbeat.lookup list =
        [.add 1 10 (some 0), .add 2 20 (some 1), .add 3 30 (some 2), .pop 2, .add 1 40 none].foldl
          StoreOp.onMap (fun _ => none) ∧
      ∀ id, (h.call (.pop id)).bind contents = some (list.filter fun node => node.id ≠ id) :=
  store_refines_map _ (by decide)

end HeartbeatHeap

end FcomGateway
