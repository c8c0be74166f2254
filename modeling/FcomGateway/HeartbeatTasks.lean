import FcomGateway.Library.Interleave
import FcomGateway.HeartbeatHeap
import FcomGateway.System

/-! # The heartbeat list under its four tasks

The RF task, the HMI task and `app_main` add detectors, `Heartbeat_Task` pops them. Each takes its
own copy of the head first; only `Heartbeat_Task` takes `alarm_mutex`.
-/

namespace FcomGateway

open EventTrace Interleave

inductive HeartbeatTask
  | rf
  | hmi
  | appMain
  | heartbeat
  deriving DecidableEq, Repr

inductive HeapOp
  | getHead
  | addState (id : Nat) (timestamp : Int) (malloc : Option Nat)
  | popState (id : Nat)
  deriving DecidableEq, Repr

/-- `last` has the timestamp of the detectors whose last completed operation was `add_state`.
`fault` is set by a call without a defined result. -/
structure HeapState where
  heap : HeartbeatHeap
  headLocal : HeartbeatTask → Option Nat
  last : Nat → Option Int
  fault : Bool

namespace HeapState

def start : HeapState where
  heap := .empty
  headLocal _ := none
  last _ := none
  fault := false

def exec (task : HeartbeatTask) (op : HeapOp) (s : HeapState) : HeapState :=
  match op with
  | .getHead => { s with headLocal := Function.update s.headLocal task s.heap.getHead }
  | .addState id timestamp malloc =>
    match s.heap.addState (s.headLocal task) id timestamp malloc with
    | some (list, heap) =>
      { s with
        heap := heap
        headLocal := Function.update s.headLocal task list
        last := Function.update s.last id (some timestamp) }
    | none => { s with fault := true }
  | .popState id =>
    match s.heap.popState (s.headLocal task) id with
    | some (list, heap) =>
      { s with
        heap := heap
        headLocal := Function.update s.headLocal task list
        last := Function.update s.last id none }
    | none => { s with fault := true }

end HeapState

/-- What a task does in one go: the end of `sensor_data_handler`, of `hmi_process`, the loop of
`app_main`, and the expiry of one node. -/
inductive HeapJob
  | rf (id : Nat) (timestamp : Int) (malloc : Option Nat)
  | hmi (id : Nat) (timestamp : Int) (malloc : Option Nat)
  | appMain (entries : List (Nat × Int × Option Nat))
  | heartbeat (id : Nat)
  deriving DecidableEq, Repr

def HeapJob.task : HeapJob → HeartbeatTask
  | .rf _ _ _ => .rf
  | .hmi _ _ _ => .hmi
  | .appMain _ => .appMain
  | .heartbeat _ => .heartbeat

def HeapJob.script : HeapJob → List HeapOp
  | .rf id timestamp malloc | .hmi id timestamp malloc => [.getHead, .addState id timestamp malloc]
  | .appMain entries =>
    .getHead :: entries.map fun entry => .addState entry.1 entry.2.1 entry.2.2
  | .heartbeat id => [.getHead, .popState id]

def heapProgram : Program HeartbeatTask HeapJob HeapOp HeapState where
  task := HeapJob.task
  script := HeapJob.script
  exec := HeapState.exec

/-- The list reachable from the head has exactly the detectors whose last operation was
`add_state`, each with the timestamp of that call. -/
def HeapLaw (c : Config HeartbeatTask HeapOp HeapState) : Prop :=
  c.shared.fault = false ∧ ∃ list, c.shared.heap.contents = some list ∧
    ∀ node : Dtor, node ∈ list ↔ c.shared.last node.id = some node.timestamp

/-- The caller's copy is still the head, and a new detector finds memory for its node. -/
def OpSafe (task : HeartbeatTask) (s : HeapState) : HeapOp → Prop
  | .getHead => True
  | .addState id _ malloc => s.headLocal task = s.heap.head ∧
      (s.last id = none → (malloc.any fun a => (s.heap.cell a).isNone) = true)
  | .popState _ => s.headLocal task = s.heap.head

def HeapSafe (c : Config HeartbeatTask HeapOp HeapState) :
    Action HeartbeatTask HeapJob → Prop
  | .begin _ => True
  | .advance task =>
    match c.todo task with
    | [] => True
    | op :: _ => OpSafe task c.shared op

instance (task : HeartbeatTask) (s : HeapState) (op : HeapOp) : Decidable (OpSafe task s op) := by
  cases op <;> unfold OpSafe <;> infer_instance

instance (c : Config HeartbeatTask HeapOp HeapState) (action : Action HeartbeatTask HeapJob) :
    Decidable (HeapSafe c action) := by
  cases action with
  | begin job => exact .isTrue trivial
  | advance task =>
    unfold HeapSafe
    dsimp only
    split <;> infer_instance

structure HeapInv (s : HeapState) : Prop where
  running : s.fault = false
  tracked : ∃ list, s.heap.Holds list ∧ Heartbeat.Tracks list s.last

theorem HeapInv.law {c : Config HeartbeatTask HeapOp HeapState} (h : HeapInv c.shared) :
    HeapLaw c := by
  obtain ⟨list, hHolds, hTracks⟩ := h.tracked
  exact ⟨h.running, list, hHolds.contents, hTracks.mem⟩

theorem HeapInv.exec {s : HeapState} (h : HeapInv s) {task : HeartbeatTask} {op : HeapOp}
    (hSafe : OpSafe task s op) : HeapInv (s.exec task op) := by
  obtain ⟨hRunning, list, hHolds, hTracks⟩ := h
  cases op with
  | getHead => exact ⟨hRunning, list, hHolds, hTracks⟩
  | addState id timestamp malloc =>
    obtain ⟨hCurrent, hMalloc⟩ := hSafe
    have hFree : id ∉ list.map Dtor.id → ∃ a, malloc = some a ∧ s.heap.cell a = none := by
      intro hNew
      have hNone : s.last id = none := by
        by_contra hLast
        exact hNew (hTracks.mem_ids.mpr hLast)
      cases malloc with
      | none => cases hMalloc hNone
      | some a => exact ⟨a, rfl, Option.isNone_iff_eq_none.mp (hMalloc hNone)⟩
    obtain ⟨next, hCall, hNext⟩ := HeartbeatHeap.addState_holds hHolds timestamp hFree
    simp only [HeapState.exec, hCurrent, hCall]
    exact ⟨hRunning, _, hNext, hTracks.addState id timestamp⟩
  | popState id =>
    obtain ⟨next, hCall, hNext⟩ := HeartbeatHeap.popState_holds hHolds id
    have hCurrent : s.headLocal task = s.heap.head := hSafe
    simp only [HeapState.exec, hCurrent, hCall]
    exact ⟨hRunning, _, hNext, hTracks.popState id⟩

theorem HeapInv.step {c : Config HeartbeatTask HeapOp HeapState}
    {action : Action HeartbeatTask HeapJob} (h : HeapInv c.shared) (hSafe : HeapSafe c action) :
    HeapInv (heapProgram.step c action).shared := by
  rcases Program.step_cases c action with
    hSame | ⟨job, _, _, hNext⟩ | ⟨task, op, rest, rfl, hTodo, hNext⟩
  · rw [hSame]
    exact h
  · rw [hNext]
    exact h
  · rw [hNext]
    simp only [HeapSafe, hTodo] at hSafe
    exact h.exec hSafe

/-- In every interleaving whose calls are made on a copy that is still the head the list is
that of the last operations. -/
theorem heapLaw_always {actions : List (Action HeartbeatTask HeapJob)}
    (hSafe : Along heapProgram.step HeapSafe (Config.idle .start) actions) :
    Always heapProgram.step HeapLaw (Config.idle .start) actions := by
  have hStart : HeapInv HeapState.start :=
    ⟨rfl, [], HeartbeatHeap.empty_holds, Heartbeat.Tracks.nil⟩
  exact always_of_invariant (I := fun c => HeapInv c.shared) (fun _ _ => HeapInv.step)
    (fun _ => HeapInv.law) hStart hSafe

theorem heapLaw_in_turn : Always heapProgram.step HeapLaw (Config.idle .start)
    (heapProgram.schedule (.appMain [(3, 0, some 7), (4, 0, some 8)]) ++
      [.begin (.rf 1 5 (some 2)), .begin (.heartbeat 3), .advance .rf, .advance .rf] ++
      [.advance .heartbeat, .advance .heartbeat] ++ heapProgram.schedule (.hmi 1 9 none)) :=
  heapLaw_always (by decide)

/-- The RF task and the HMI task take the empty head one after the other, then each adds its
detector: the node of the first is lost. -/
theorem first_add_lost : ¬ Always heapProgram.step HeapLaw (Config.idle .start)
    [.begin (.rf 1 0 (some 0)), .begin (.hmi 2 0 (some 1)), .advance .rf, .advance .hmi,
      .advance .rf, .advance .hmi] := by
  intro h
  obtain ⟨_, list, hContents, hList⟩ := h.last
  have hFirst : (⟨1, 0⟩ : Dtor) ∈ list := (hList ⟨1, 0⟩).mpr (by decide)
  have hReached : some list = some [⟨2, 0⟩] := hContents.symm.trans (by decide)
  rw [Option.some.inj hReached] at hFirst
  revert hFirst
  decide

/-! ## Jobs that are not interrupted -/

/-- An add of the RF or the HMI task that no other task interrupts is `addHeartbeat` of the
gateway. -/
theorem schedule_addHeartbeat {s : HeapState} {g : Gateway} (hHolds : s.heap.Holds g.heartbeat)
    {id : Nat} {now : Int} {malloc : Option Nat} {job : HeapJob}
    (hJob : job = .rf id now malloc ∨ job = .hmi id now malloc)
    (hMalloc : id ∉ g.heartbeat.map Dtor.id → ∃ a, malloc = some a ∧ s.heap.cell a = none) :
    ∃ next, run heapProgram.step (Config.idle s) (heapProgram.schedule job) = Config.idle next ∧
      next.heap.Holds (addHeartbeat id now g).heartbeat := by
  obtain ⟨heap, hCall, hHeap⟩ := HeartbeatHeap.addState_holds hHolds now hMalloc
  refine ⟨_, Program.run_schedule s job, ?_⟩
  rcases hJob with rfl | rfl <;>
  · simp only [heapProgram, HeapJob.script, Program.runScript, List.foldl_cons, List.foldl_nil,
      HeapState.exec, Function.update_self, HeartbeatHeap.getHead, hCall]
    exact hHeap

/-- The expiry of a node that no other task interrupts takes it out of the gateway's list. -/
theorem schedule_popState {s : HeapState} {list : List Dtor} (hHolds : s.heap.Holds list)
    (id : Nat) : ∃ next,
    run heapProgram.step (Config.idle s) (heapProgram.schedule (.heartbeat id)) =
      Config.idle next ∧ next.heap.Holds (Heartbeat.popState id list) := by
  obtain ⟨heap, hCall, hHeap⟩ := HeartbeatHeap.popState_holds hHolds id
  refine ⟨_, Program.run_schedule s (HeapJob.heartbeat id), ?_⟩
  simp only [heapProgram, HeapJob.script, Program.runScript, List.foldl_cons, List.foldl_nil,
    HeapState.exec, HeapJob.task, Function.update_self, HeartbeatHeap.getHead, hCall]
  exact hHeap

end FcomGateway
