import Mathlib.Data.Fintype.Basic
import FcomGateway.Library.Interleave
import FcomGateway.System

/-! # Which detector an event is published for

The producers write `curDetector` and then post an event; the send task takes the event and
builds the packet for the detector that `curDetector` holds by then. The tasks run as scripts of
these operations, interleaved at will, and every queue entry remembers the detector it was posted
for.
-/

namespace FcomGateway

open EventTrace Interleave

/-- The tasks: `mqtt` stands for the MQTT event handler, which also runs the server's commands,
`sender` for `mqtt_send_task`. -/
inductive BusTask
  | rf
  | hmi
  | heartbeat
  | mqtt
  | sender
  deriving DecidableEq, Repr

instance : Fintype BusTask where
  elems := {.rf, .hmi, .heartbeat, .mqtt, .sender}
  complete task := by cases task <;> decide

inductive DetectorEvent
  | feedback
  | register
  | error
  deriving DecidableEq, Repr

def DetectorEvent.dataEvent : DetectorEvent → DataEvent
  | .feedback => .ssFeedbackFlag
  | .register => .ssRegisterServer
  | .error => .ssErrorFlag

def DataEvent.detectorEvent? : DataEvent → Option DetectorEvent
  | .ssFeedbackFlag => some .feedback
  | .ssRegisterServer => some .register
  | .ssErrorFlag => some .error
  | _ => none

inductive QueueEntry
  | about (event : DetectorEvent) (detector : Nat)
  | notice (event : DataEvent)
  deriving DecidableEq, Repr

def QueueEntry.event : QueueEntry → DataEvent
  | .about event _ => event.dataEvent
  | .notice event => event

def QueueEntry.about? : QueueEntry → Option (DetectorEvent × Nat)
  | .about event detector => some (event, detector)
  | .notice _ => none

/-- `wrote` is the detector that a task wrote to `curDetector` last, `hand` the event that the
send task has taken and not yet published. -/
structure Bus where
  curDetector : Nat
  dataProcess : List QueueEntry
  hand : Option (DetectorEvent × Nat)
  wrote : BusTask → Nat
  posted : List (DetectorEvent × Nat)
  published : List (DetectorEvent × Nat)
  sendFailed : Bool

inductive BusOp
  | write (detector : Nat)
  | post (event : DetectorEvent)
  | notice (event : DataEvent)
  | take
  | publish
  deriving DecidableEq, Repr

def Bus.send (entry : QueueEntry) (b : Bus) : Bus :=
  if b.dataProcess.length < DATA_PROCESS_LENGTH then
    { b with
      dataProcess := b.dataProcess ++ [entry]
      posted := b.posted ++ entry.about?.toList }
  else { b with sendFailed := true }

def Bus.exec (task : BusTask) (op : BusOp) (b : Bus) : Bus :=
  match op with
  | .write d => { b with curDetector := d, wrote := Function.update b.wrote task d }
  | .post event => b.send (.about event (b.wrote task))
  | .notice event => b.send (.notice event)
  | .take =>
    match b.hand, b.dataProcess with
    | none, entry :: rest => { b with hand := entry.about?, dataProcess := rest }
    | _, _ => b
  | .publish =>
    match b.hand with
    | some (event, _) =>
      { b with hand := none, published := b.published ++ [(event, b.curDetector)] }
    | none => b

/-- What a task does in one go. `reports` is a call of `sensor_data_handler` with the addresses
of its reports and whether one was registered; `removal` moves `curDetector` and posts nothing;
`notice` is a send that is not about a detector. -/
inductive BusJob
  | reports (adds : List Nat) (registers : Bool)
  | wiredReport (channel : Nat)
  | wiredRegister (slot : Nat)
  | expiry (id : Nat)
  | removal (cur : Nat)
  | notice (task : BusTask) (event : DataEvent)
  | send
  deriving DecidableEq, Repr

def BusJob.task : BusJob → BusTask
  | .reports _ _ => .rf
  | .wiredReport _ | .wiredRegister _ => .hmi
  | .expiry _ => .heartbeat
  | .removal _ => .mqtt
  | .notice task _ => task
  | .send => .sender

def BusJob.script : BusJob → List BusOp
  | .reports [] _ => []
  | .reports (add :: adds) registers =>
    .write add :: adds.map .write ++ (if registers then [.post .register] else []) ++
      [.post .feedback]
  | .wiredReport channel => [.write channel, .post .feedback]
  | .wiredRegister slot => [.write slot, .post .register, .post .feedback]
  | .expiry id => [.write id, .post .error]
  | .removal cur => [.write cur]
  | .notice _ event => [.notice event]
  | .send => [.take, .publish]

def busProgram : Program BusTask BusJob BusOp Bus where
  task := BusJob.task
  script := BusJob.script
  exec := Bus.exec

def Bus.start (cur : Nat) : Bus where
  curDetector := cur
  dataProcess := []
  hand := none
  wrote _ := 0
  posted := []
  published := []
  sendFailed := false

/-- As long as no send failed, the k-th published event about a detector is the k-th posted one,
published for the detector it was posted for. -/
def PublicationLaw (c : Config BusTask BusOp Bus) : Prop :=
  c.shared.sendFailed = false → c.shared.published <+: c.shared.posted

instance (c : Config BusTask BusOp Bus) : Decidable (PublicationLaw c) :=
  inferInstanceAs (Decidable (_ → _))

/-! ## The condition -/

/-- The events about a detector that are posted and not yet published. -/
def Bus.awaiting (b : Bus) : List (DetectorEvent × Nat) :=
  b.hand.toList ++ b.dataProcess.filterMap QueueEntry.about?

/-- The task has written its detector and still has to post for it. -/
def armed : List BusOp → Bool
  | [] => false
  | .write _ :: _ => false
  | .post _ :: _ => true
  | _ :: rest => armed rest

/-- Detector `d` may be written by a task when every event that is posted and not published, and
every other task between its write and its post, is about `d`. -/
def Overwritable (c : Config BusTask BusOp Bus) (task : BusTask) (d : Nat) : Prop :=
  (∀ event ∈ c.shared.awaiting, event.2 = d) ∧
    ∀ other, other ≠ task → armed (c.todo other) = true → c.shared.wrote other = d

def writes : List BusOp → Option Nat
  | .write d :: _ => some d
  | _ => none

def WriteSafe (c : Config BusTask BusOp Bus) : Action BusTask BusJob → Prop
  | .begin _ => True
  | .advance task => ∀ d ∈ writes (c.todo task), Overwritable c task d

instance (c : Config BusTask BusOp Bus) (task : BusTask) (d : Nat) :
    Decidable (Overwritable c task d) := inferInstanceAs (Decidable (_ ∧ _))

instance (c : Config BusTask BusOp Bus) :
    (action : Action BusTask BusJob) → Decidable (WriteSafe c action)
  | .begin _ => .isTrue trivial
  | .advance task => inferInstanceAs (Decidable (∀ d ∈ writes (c.todo task), _))

/-! ## The invariant -/

/-- Everything posted is published, in hand or in the queue, in this order, and what is not
published yet, or not posted yet, is about `curDetector`. -/
structure BusInv (c : Config BusTask BusOp Bus) : Prop where
  fifo : c.shared.posted = c.shared.published ++ c.shared.awaiting
  awaiting : ∀ event ∈ c.shared.awaiting, event.2 = c.shared.curDetector
  owned : ∀ task, armed (c.todo task) = true → c.shared.wrote task = c.shared.curDetector

theorem BusInv.law {c : Config BusTask BusOp Bus} (h : BusInv c) : PublicationLaw c :=
  fun _ => ⟨c.shared.awaiting, h.fifo.symm⟩

theorem armed_script (job : BusJob) : armed job.script = false := by
  cases job with
  | reports adds registers => cases adds <;> rfl
  | wiredReport channel | wiredRegister slot | expiry id | removal cur => rfl
  | notice task event | send => rfl

theorem BusInv.begin {c : Config BusTask BusOp Bus} (h : BusInv c) (job : BusJob) :
    BusInv { c with todo := Function.update c.todo job.task job.script } := by
  refine ⟨h.fifo, h.awaiting, fun task hArmed => ?_⟩
  change armed (Function.update c.todo job.task job.script task) = true at hArmed
  by_cases hTask : task = job.task
  · rw [hTask, Function.update_self, armed_script] at hArmed
    cases hArmed
  · rw [Function.update_of_ne hTask] at hArmed
    exact h.owned task hArmed

theorem BusInv.advance {c next : Config BusTask BusOp Bus} (h : BusInv c) {task : BusTask}
    {op : BusOp} {rest : List BusOp} (hTodo : c.todo task = op :: rest)
    (hNext : next.todo = Function.update c.todo task rest)
    (hArmed : armed rest = true → armed (op :: rest) = true)
    (hCur : next.shared.curDetector = c.shared.curDetector)
    (hWrote : next.shared.wrote = c.shared.wrote)
    (hFifo : next.shared.posted = next.shared.published ++ next.shared.awaiting)
    (hAwaiting : ∀ event ∈ next.shared.awaiting, event.2 = c.shared.curDetector) :
    BusInv next := by
  refine ⟨hFifo, fun event hEvent => (hAwaiting event hEvent).trans hCur.symm,
    fun other hOther => ?_⟩
  rw [hWrote, hCur]
  rw [hNext] at hOther
  by_cases hTask : other = task
  · subst hTask
    rw [Function.update_self] at hOther
    exact h.owned other (by rw [hTodo]; exact hArmed hOther)
  · rw [Function.update_of_ne hTask] at hOther
    exact h.owned other hOther

theorem Bus.send_cases (entry : QueueEntry) (b : Bus) :
    (b.send entry = { b with
        dataProcess := b.dataProcess ++ [entry]
        posted := b.posted ++ entry.about?.toList } ∧
      (b.send entry).awaiting = b.awaiting ++ entry.about?.toList) ∨
    b.send entry = { b with sendFailed := true } := by
  unfold send
  split
  · refine Or.inl ⟨rfl, ?_⟩
    cases entry <;> simp [awaiting, QueueEntry.about?]
  · exact Or.inr rfl

theorem BusInv.send {c : Config BusTask BusOp Bus} (h : BusInv c) {task : BusTask}
    {op : BusOp} {rest : List BusOp} (hTodo : c.todo task = op :: rest)
    (hArmed : armed rest = true → armed (op :: rest) = true) {entry : QueueEntry}
    (hEntry : ∀ event, entry.about? = some event → event.2 = c.shared.curDetector) :
    BusInv { shared := c.shared.send entry, todo := Function.update c.todo task rest } := by
  rcases Bus.send_cases entry c.shared with ⟨hSend, hAwaiting⟩ | hFull
  · refine h.advance hTodo rfl hArmed ?_ ?_ ?_ ?_
    · rw [hSend]
    · rw [hSend]
    · rw [hAwaiting, hSend, ← List.append_assoc, ← h.fifo]
    · intro event hEvent
      rw [hAwaiting] at hEvent
      rcases List.mem_append.mp hEvent with hOld | hNew
      · exact h.awaiting event hOld
      · exact hEntry event (Option.mem_toList.mp hNew)
  · rw [hFull]
    exact h.advance hTodo rfl hArmed rfl rfl h.fifo h.awaiting

theorem BusInv.take {c : Config BusTask BusOp Bus} (h : BusInv c) {task : BusTask}
    {rest : List BusOp} (hTodo : c.todo task = .take :: rest) :
    BusInv { shared := c.shared.exec task .take, todo := Function.update c.todo task rest } := by
  have hSame : (c.shared.exec task .take).awaiting = c.shared.awaiting ∧
      ∃ hand queue, c.shared.exec task .take =
        { c.shared with hand := hand, dataProcess := queue } := by
    unfold Bus.exec
    dsimp only
    split
    · rename_i entry tail hHand hQueue
      refine ⟨?_, _, _, rfl⟩
      rw [Bus.awaiting, Bus.awaiting, hHand, hQueue]
      cases entry <;> rfl
    · exact ⟨rfl, _, _, rfl⟩
  obtain ⟨hAwaiting, hand, queue, hExec⟩ := hSame
  refine h.advance hTodo rfl id ?_ ?_ ?_ ?_
  · rw [hExec]
  · rw [hExec]
  · rw [hAwaiting, hExec]
    exact h.fifo
  · rw [hAwaiting]
    exact h.awaiting

/-- The packet is built for `curDetector`, which the event in hand is about. -/
theorem BusInv.publish {c : Config BusTask BusOp Bus} (h : BusInv c) {task : BusTask}
    {rest : List BusOp} (hTodo : c.todo task = .publish :: rest) :
    BusInv { shared := c.shared.exec task .publish, todo := Function.update c.todo task rest } := by
  unfold Bus.exec
  cases hHand : c.shared.hand with
  | none => exact h.advance hTodo rfl id rfl rfl h.fifo h.awaiting
  | some entry =>
    obtain ⟨event, detector⟩ := entry
    have hAwaiting : c.shared.awaiting =
        (event, detector) :: c.shared.dataProcess.filterMap QueueEntry.about? := by
      rw [Bus.awaiting, hHand]
      rfl
    have hOwn : detector = c.shared.curDetector :=
      h.awaiting (event, detector) (by rw [hAwaiting]; exact List.mem_cons_self)
    refine h.advance hTodo rfl id rfl rfl ?_ fun entry hEntry => ?_
    · rw [h.fifo, hAwaiting, ← hOwn]
      simp [Bus.awaiting]
    · refine h.awaiting entry ?_
      rw [hAwaiting]
      exact List.mem_cons_of_mem _ hEntry

theorem BusInv.step {c : Config BusTask BusOp Bus} {action : Action BusTask BusJob}
    (h : BusInv c) (hSafe : WriteSafe c action) : BusInv (busProgram.step c action) := by
  rcases Program.step_cases (p := busProgram) c action with
    hSame | ⟨job, _, _, hBegin⟩ | ⟨task, op, rest, rfl, hTodo, hAdvance⟩
  · rw [hSame]
    exact h
  · rw [hBegin]
    exact h.begin job
  rw [hAdvance]
  cases op with
  | write d =>
    obtain ⟨hQueue, hOthers⟩ := hSafe d (by rw [hTodo]; rfl)
    refine ⟨h.fifo, hQueue, fun other hArmed => ?_⟩
    change armed (Function.update c.todo task rest other) = true at hArmed
    by_cases hTask : other = task
    · rw [hTask]
      exact Function.update_self ..
    · rw [Function.update_of_ne hTask] at hArmed
      exact (Function.update_of_ne hTask ..).trans (hOthers other hTask hArmed)
  | post event =>
    refine h.send hTodo (fun _ => rfl) fun entry hEntry => ?_
    rw [← Option.some.inj hEntry]
    exact h.owned task (by rw [hTodo]; rfl)
  | notice event => exact h.send hTodo id fun entry hEntry => by cases hEntry
  | take => exact h.take hTodo
  | publish => exact h.publish hTodo

theorem busInv_start (cur : Nat) : BusInv (Config.idle (Bus.start cur)) :=
  ⟨rfl, fun event hEvent => absurd hEvent List.not_mem_nil, fun _ hArmed => by cases hArmed⟩

/-- In every interleaving that never writes `curDetector` over an event of another detector, the
events are published for the detectors they were posted for. -/
theorem published_for_poster (cur : Nat) {actions : List (Action BusTask BusJob)}
    (hSafe : Along busProgram.step WriteSafe (Config.idle (Bus.start cur)) actions) :
    Always busProgram.step PublicationLaw (Config.idle (Bus.start cur)) actions :=
  always_of_invariant (fun _ _ h hAction => BusInv.step h hAction) (fun _ h => h.law)
    (busInv_start cur) hSafe

/-- Detector 1 reports while the send task waits, and detector 2 after its packet is out. -/
theorem published_for_poster_in_turn : Always busProgram.step PublicationLaw
    (Config.idle (Bus.start 0))
    (busProgram.schedule (.reports [1] false) ++ busProgram.schedule .send ++
      busProgram.schedule (.reports [2] false) ++ busProgram.schedule .send) :=
  published_for_poster 0 (by decide)

/-- Detectors 1 and 2 report before the send task runs; the event of detector 1 is published for
detector 2. -/
theorem published_for_later_detector : ¬ ∀ (cur : Nat) (actions : List (Action BusTask BusJob)),
    Always busProgram.step PublicationLaw (Config.idle (Bus.start cur)) actions := by
  intro h
  have hRun := h 0 (busProgram.schedule (.reports [1] false) ++
    busProgram.schedule (.reports [2] false) ++ busProgram.schedule .send)
  revert hRun
  decide

/-! ## The gateway's passes as jobs -/

def Bus.view (b : Bus) : Nat × List DataEvent :=
  (b.curDetector, b.dataProcess.map QueueEntry.event)

def Gateway.busView (g : Gateway) : Nat × List DataEvent :=
  (g.sensorData.curDetector, g.dataProcess)

def Bus.runJobs (b : Bus) (jobs : List BusJob) : Bus :=
  jobs.foldl (fun b job => busProgram.runScript job.task b job.script) b

@[simp] theorem exec_write_view (b : Bus) (task : BusTask) (d : Nat) :
    (b.exec task (.write d)).view = (d, b.view.2) := rfl

theorem send_view (b : Bus) (entry : QueueEntry) :
    (b.send entry).view = (b.view.1, enqueue entry.event b.view.2) := by
  unfold Bus.send enqueue Bus.view
  rw [List.length_map]
  split
  · rw [List.map_append]
    rfl
  · rfl

@[simp] theorem exec_post_view (b : Bus) (task : BusTask) (event : DetectorEvent) :
    (b.exec task (.post event)).view = (b.view.1, enqueue event.dataEvent b.view.2) :=
  send_view b _

@[simp] theorem exec_notice_view (b : Bus) (task : BusTask) (event : DataEvent) :
    (b.exec task (.notice event)).view = (b.view.1, enqueue event b.view.2) :=
  send_view b _

theorem runScript_writes_view (task : BusTask) (adds : List Nat) (b : Bus) :
    (busProgram.runScript task b (adds.map .write)).view =
      (adds.getLast?.getD b.view.1, b.view.2) := by
  induction adds generalizing b with
  | nil => rfl
  | cons add adds ih =>
    have hFirst : busProgram.runScript task b ((add :: adds).map .write) =
        busProgram.runScript task (b.exec task (.write add)) (adds.map .write) := rfl
    rw [hFirst, ih, exec_write_view, List.getLast?_cons]
    rfl

theorem reports_view (adds : List Nat) (registers : Bool) (b : Bus) :
    (b.runJobs [.reports adds registers]).view = match adds.getLast? with
      | none => b.view
      | some d => (d, enqueue .ssFeedbackFlag
          (if registers then enqueue .ssRegisterServer b.view.2 else b.view.2)) := by
  cases adds with
  | nil => rfl
  | cons add adds =>
    have hScript : b.runJobs [.reports (add :: adds) registers] = busProgram.runScript .rf
        (busProgram.runScript .rf b ((add :: adds).map .write))
        ((if registers then [.post .register] else []) ++ [.post .feedback]) := by
      simp only [Bus.runJobs, List.foldl_cons, List.foldl_nil, BusJob.task, BusJob.script,
        Program.runScript, List.foldl_append, List.map_cons]
    rw [hScript, List.getLast?_cons]
    generalize hWritten : busProgram.runScript .rf b ((add :: adds).map .write) = written
    have hView : written.view = (adds.getLast?.getD add, b.view.2) := by
      rw [← hWritten, runScript_writes_view, List.getLast?_cons]
      rfl
    cases registers with
    | true =>
      change ((written.exec .rf (.post .register)).exec .rf (.post .feedback)).view = _
      rw [exec_post_view, exec_post_view, hView]
      rfl
    | false =>
      change (written.exec .rf (.post .feedback)).view = _
      rw [exec_post_view, hView]
      rfl

/-- The jobs of an event, none of them interrupted. -/
def busJobs (g : Gateway) : Event → List BusJob
  | .rf input =>
    if g.ssStateMachine = .configAddMode then [.notice .rf .gwFeedbackFlag]
    else [.reports ((frames (received input g)).filterMap Frame.add?)
      (decide (Registers g (frames (received input g))))]
  | .hmi reads =>
    match pollAction reads g with
    | some .register => (freeSlot g.sensorData).toList.map .wiredRegister
    | some (.report _) => [.wiredReport g.sensorData.inputChannel]
    | none => []
  | .addSub _ => [.notice .mqtt .jobRequestedFeedbackFlag]
  | .stopAddSub => [.notice .mqtt .gwFeedbackFlag]
  | .removeSub node =>
    if Removable node g then [.removal (g.sensorData.erase node.toNat).curDetector] else []
  | .updateFw => [.notice .mqtt .jobRequestedOta]
  | .mqttConnected =>
    if g.isMqttFirstBoot then []
    else .notice .mqtt .gwFeedbackFlag ::
      if g.gatewayData.userReset then [.notice .mqtt .gwResetSsState] else []
  | .mqttDisconnected => []
  | .mqttSend => if g.gatewayData.mqttStatus then [.send] else []
  | .heartbeat now id =>
    match g.heartbeat.find? fun node => node.id = id with
    | some checker =>
      if now - checker.timestamp ≥ HEART_BEAT_TIME then [.expiry checker.id] else []
    | none => []
  | .networkType => [.notice .mqtt .gwFeedbackFlag]

theorem notice_view {g : Gateway} {b : Bus} (hView : b.view = g.busView) (task : BusTask)
    (event : DataEvent) : (b.runJobs [.notice task event]).view =
      (g.sensorData.curDetector, enqueue event g.dataProcess) := by
  change (b.exec task (.notice event)).view = _
  rw [exec_notice_view, hView]
  rfl

theorem sensorDataHandler_view (now : Int) (dtmp : List UInt8) {g : Gateway}
    (hIdle : g.isSensorFeedback = false) {b : Bus} (hView : b.view = g.busView) :
    (b.runJobs [.reports ((frames dtmp).filterMap Frame.add?)
      (decide (Registers g (frames dtmp)))]).view = (sensorDataHandler now dtmp g).busView := by
  rw [reports_view, Gateway.busView, sensorDataHandler_curDetector,
    sensorDataHandler_dataProcess now dtmp hIdle, lastAdd, hView]
  cases ((frames dtmp).filterMap Frame.add?).getLast? with
  | none => rfl
  | some d => simp [Gateway.busView]

theorem rfHandleExtTask_view (input : RfInput) {g : Gateway}
    (hIdle : g.isSensorFeedback = false) {b : Bus} (hView : b.view = g.busView) :
    (b.runJobs (busJobs g (.rf input))).view = (rfHandleExtTask input g).busView := by
  rw [busJobs]
  cases hMode : g.ssStateMachine with
  | configAddMode =>
    rw [if_pos rfl, notice_view hView, rfHandleExtTask, hMode]
    rfl
  | initCmd | configListenMode | finishedAddSub =>
    rw [if_neg nofun, received, hMode, rfHandleExtTask, hMode]
    exact hView
  | findingSub | waitAddSub =>
    rw [if_neg nofun, received, hMode, rfHandleExtTask, hMode]
    refine hView.trans ?_
    dsimp only
    split <;> rfl
  | registerSub | listenSubEvent =>
    rw [if_neg nofun, received, hMode, rfHandleExtTask, hMode]
    cases input.uart with
    | none => exact hView
    | some read => exact sensorDataHandler_view read.1 read.2 hIdle hView

theorem hmiProcess_view (reads : PollReads) {g : Gateway} {b : Bus}
    (hView : b.view = g.busView) :
    (b.runJobs (busJobs g (.hmi reads))).view = (hmiProcess reads g).busView := by
  obtain ⟨hT, hF, hE⟩ := wiredReport_effect reads g
  have report : ∀ {letter next}, WiredReport letter g next →
      (b.runJobs [.wiredReport g.sensorData.inputChannel]).view = next.busView := by
    intro letter next hNext
    rw [Gateway.busView, hNext.cur, hNext.queue]
    change ((b.exec .hmi (.write _)).exec .hmi (.post .feedback)).view = _
    rw [exec_post_view, exec_write_view, hView]
    rfl
  rw [busJobs]
  rcases hmiProcess_cases reads g with
    ⟨hAction, start, hNext⟩ | ⟨hAction, hNext⟩ | ⟨_, ⟨hAction, hNext⟩ | ⟨hAction, hNext⟩ |
      ⟨hAction, hNext⟩⟩
  · rw [hAction, hNext]
    exact hView
  · rw [hAction, hNext, wiredRegister]
    dsimp only
    cases freeSlot g.sensorData with
    | none => exact hView
    | some c =>
      change (((b.exec .hmi (.write c)).exec .hmi (.post .register)).exec .hmi
        (.post .feedback)).view = _
      rw [exec_post_view, exec_post_view, exec_write_view, hView]
      rfl
  · rw [hAction, hNext]
    exact report hT
  · rw [hAction, hNext]
    exact report hF
  · rw [hAction, hNext]
    exact report hE

theorem send_empty {b : Bus} (hHand : b.hand = none) (hQueue : b.dataProcess = []) :
    b.runJobs [.send] = b := by
  have hTake : b.exec .sender .take = b := by simp only [Bus.exec, hHand, hQueue]
  change (b.exec .sender .take).exec .sender .publish = b
  rw [hTake]
  simp only [Bus.exec, hHand]

/-- The packet for the entry that the send task takes, if it is about a detector. -/
theorem send_cons {b : Bus} {entry : QueueEntry} {entries : List QueueEntry}
    (hHand : b.hand = none) (hQueue : b.dataProcess = entry :: entries) :
    b.runJobs [.send] = { b with
      dataProcess := entries
      published := b.published ++
        entry.about?.toList.map fun event => (event.1, b.curDetector) } := by
  have hTake : b.exec .sender .take = { b with hand := entry.about?, dataProcess := entries } := by
    simp only [Bus.exec, hHand, hQueue]
  change (b.exec .sender .take).exec .sender .publish = _
  rw [hTake]
  cases entry with
  | about event detector => simp [Bus.exec, QueueEntry.about?, hHand]
  | notice event => simp [Bus.exec, QueueEntry.about?, hHand]

theorem mqttSendTask_view {g : Gateway} {b : Bus} (hView : b.view = g.busView)
    (hHand : b.hand = none) :
    (b.runJobs (busJobs g .mqttSend)).view = (mqttSendTask g).busView := by
  have hQueue : b.dataProcess.map QueueEntry.event = g.dataProcess := congrArg Prod.snd hView
  have hCur : b.curDetector = g.sensorData.curDetector := congrArg Prod.fst hView
  rw [busJobs, mqttSendTask]
  split
  · cases hEntries : b.dataProcess with
    | nil =>
      rw [hEntries] at hQueue
      rw [send_empty hHand hEntries, ← hQueue]
      exact hView
    | cons entry entries =>
      rw [hEntries] at hQueue
      rw [send_cons hHand hEntries, ← hQueue, List.map_cons]
      dsimp only
      rw [Gateway.busView, handleDataEvent_curDetector, handleDataEvent_dataProcess, ← hCur]
      rfl
  · exact hView

/-- Every event of the gateway does to `curDetector` and the queue what its jobs do. -/
theorem step_view {g : Gateway} (hIdle : g.isSensorFeedback = false) (event : Event) {b : Bus}
    (hView : b.view = g.busView) (hHand : b.hand = none) :
    (b.runJobs (busJobs g event)).view = (step g event).busView := by
  have notice := notice_view hView
  cases event with
  | rf input => exact rfHandleExtTask_view input hIdle hView
  | hmi reads => exact hmiProcess_view reads hView
  | addSub code => exact notice .mqtt .jobRequestedFeedbackFlag
  | stopAddSub | networkType => exact notice .mqtt .gwFeedbackFlag
  | removeSub node =>
    rw [busJobs]
    rcases removeSubDevices_cases node g with ⟨hRemove, hErase⟩ | ⟨hRemove, hSame⟩
    · rw [step, hErase, if_pos hRemove]
      change (b.exec .mqtt (.write _)).view = _
      rw [exec_write_view, hView]
      rfl
    · rw [step, hSame, if_neg hRemove]
      exact hView
  | updateFw => exact notice .mqtt .jobRequestedOta
  | mqttConnected =>
    rw [busJobs, step, mqttConnected]
    cases hFirst : g.isMqttFirstBoot with
    | true => exact hView
    | false =>
      cases hReset : g.gatewayData.userReset with
      | true =>
        change ((b.exec .mqtt (.notice .gwFeedbackFlag)).exec .mqtt
          (.notice .gwResetSsState)).view = _
        rw [exec_notice_view, exec_notice_view, hView]
        simp [Gateway.busView, hReset]
      | false =>
        refine (notice .mqtt .gwFeedbackFlag).trans ?_
        simp [Gateway.busView, hReset]
  | mqttDisconnected => exact hView
  | mqttSend => exact mqttSendTask_view hView hHand
  | heartbeat now id =>
    rw [busJobs, step, checkHeartbeat]
    cases g.heartbeat.find? fun node => node.id = id with
    | none => exact hView
    | some checker =>
      dsimp only
      split
      · change ((b.exec .heartbeat (.write _)).exec .heartbeat (.post .error)).view = _
        rw [exec_post_view, exec_write_view, hView]
        rfl
      · exact hView

/-! ## The packets of the gateway -/

def Observation.detectorPacket? : Observation → Option (DetectorEvent × Nat)
  | .published (.sensorData d _ _) => some (.feedback, d)
  | .published (.fbSsProcess d) => some (.register, d)
  | .published (.sensorError d) => some (.error, d)
  | _ => none

def Gateway.detectorPackets (g : Gateway) : List (DetectorEvent × Nat) :=
  g.log.filterMap Observation.detectorPacket?

/-- The queue did not ask for some of the feedback in `all`, that of the loops over all
detectors. -/
structure LeavesFeedback (queued all : List (DetectorEvent × Nat)) : Prop where
  sublist : queued.Sublist all
  others : queued.filter (·.1 ≠ .feedback) = all.filter (·.1 ≠ .feedback)

theorem LeavesFeedback.refl (packets : List (DetectorEvent × Nat)) :
    LeavesFeedback packets packets :=
  ⟨List.Sublist.refl _, rfl⟩

theorem LeavesFeedback.append {first first' second second' : List (DetectorEvent × Nat)}
    (h : LeavesFeedback first first') (h' : LeavesFeedback second second') :
    LeavesFeedback (first ++ second) (first' ++ second') :=
  ⟨h.sublist.append h'.sublist, by rw [List.filter_append, List.filter_append, h.others, h'.others]⟩

/-- Only feedback is published. -/
def FeedbackOnly (g next : Gateway) : Prop :=
  ∃ packets, next.detectorPackets = g.detectorPackets ++ packets ∧ ∀ p ∈ packets, p.1 = .feedback

theorem FeedbackOnly.of_eq {g next : Gateway} (h : next.detectorPackets = g.detectorPackets) :
    FeedbackOnly g next :=
  ⟨[], by rw [h, List.append_nil], nofun⟩

theorem FeedbackOnly.trans {g middle next : Gateway} (h : FeedbackOnly g middle)
    (h' : FeedbackOnly middle next) : FeedbackOnly g next := by
  obtain ⟨packets, hPackets, hFeedback⟩ := h
  obtain ⟨packets', hPackets', hFeedback'⟩ := h'
  refine ⟨packets ++ packets', by rw [hPackets', hPackets, List.append_assoc], fun p hp => ?_⟩
  exact (List.mem_append.mp hp).elim (hFeedback p) (hFeedback' p)

theorem FeedbackOnly.foldl {f : Gateway → Nat → Gateway} (hf : ∀ g c, FeedbackOnly g (f g c))
    (cs : List Nat) (g : Gateway) : FeedbackOnly g (cs.foldl f g) := by
  induction cs generalizing g with
  | nil => exact .of_eq rfl
  | cons c cs ih => exact (hf g c).trans (ih (f g c))

theorem detectorPackets_concat {g next : Gateway} {e : Observation}
    (hLog : next.log = g.log ++ [e]) :
    next.detectorPackets = g.detectorPackets ++ e.detectorPacket?.toList := by
  rw [Gateway.detectorPackets, hLog, List.filterMap_append]
  cases h : e.detectorPacket? <;> simp [h, Gateway.detectorPackets]

theorem publishSensorData_feedback (c : Nat) (g : Gateway) :
    FeedbackOnly g (flashSaveSensorData (publishSensorData c g)) :=
  ⟨[(.feedback, c)], detectorPackets_concat (e := .published (.sensorData c _ _)) rfl, by simp⟩

/-- The packets of one event of the queue. -/
theorem handleDataEvent_packets (event : DataEvent) (g : Gateway) : ∃ packets,
    (handleDataEvent event g).detectorPackets = g.detectorPackets ++ packets ∧
      LeavesFeedback (event.detectorEvent?.toList.map fun e => (e, g.sensorData.curDetector))
        packets := by
  have loop : ∀ {next}, event.detectorEvent? = none → FeedbackOnly g next → ∃ packets,
      next.detectorPackets = g.detectorPackets ++ packets ∧
        LeavesFeedback (event.detectorEvent?.toList.map fun e => (e, g.sensorData.curDetector))
          packets := by
    rintro next hNone ⟨packets, hPackets, hFeedback⟩
    refine ⟨packets, hPackets, ?_⟩
    rw [hNone]
    refine ⟨List.nil_sublist _, ?_⟩
    exact (List.filter_eq_nil_iff.mpr fun p hp => by simp [hFeedback p hp]).symm
  cases event with
  | gwResetSsState =>
    refine loop rfl (FeedbackOnly.foldl (fun g c => ?_) _ g)
    unfold resetDetector
    split
    · have hReset : FeedbackOnly g { g with sensorData := { g.sensorData with
          dtorSensorState := Function.update g.sensorData.dtorSensorState c .normalSt } } :=
        .of_eq rfl
      exact hReset.trans (publishSensorData_feedback c _)
    · exact .of_eq rfl
  | ssUploadDb =>
    refine loop rfl (FeedbackOnly.foldl (fun g c => ?_) _ g)
    unfold uploadDetector
    split
    · exact publishSensorData_feedback c g
    · exact .of_eq rfl
  | ssFeedbackFlag =>
    exact ⟨_, detectorPackets_concat (e := .published (.sensorData _ _ _)) rfl, .refl _⟩
  | ssRegisterServer =>
    exact ⟨_, detectorPackets_concat (e := .published (.fbSsProcess _)) rfl, .refl _⟩
  | ssErrorFlag =>
    exact ⟨_, detectorPackets_concat (e := .published (.sensorError _)) rfl, .refl _⟩
  | gwFeedbackFlag =>
    exact ⟨_, detectorPackets_concat (e := .published (.gatewayData _)) rfl, .refl _⟩
  | jobRequestedFeedbackFlag =>
    exact ⟨_, detectorPackets_concat (e := .published .jobRequestedFeedback) rfl, .refl _⟩
  | jobRequestedOta | gwAddSubDeviceFlag => exact ⟨[], (List.append_nil _).symm, .refl _⟩

/-- No other task publishes. -/
theorem step_detectorPackets (g : Gateway) {event : Event} (hEvent : event ≠ .mqttSend) :
    (step g event).detectorPackets = g.detectorPackets := by
  have quiet : ∀ {next : Gateway} {e : Observation}, next.log = g.log ++ [e] →
      e.detectorPacket? = none → next.detectorPackets = g.detectorPackets := by
    intro next e hLog hNone
    rw [detectorPackets_concat hLog, hNone]
    exact List.append_nil _
  cases event with
  | rf input =>
    rcases rfHandleExtTask_cases input g with
      ⟨now, hHandle⟩ | ⟨_, ⟨mode, hPost⟩ | ⟨mode, count, status, hMove⟩⟩
    · obtain ⟨news, hLog, hNews⟩ := sensorDataHandler_log now (received input g) g
      have hQuiet : news.filterMap Observation.detectorPacket? = [] := by
        rw [hNews Observation.detectorPacket? ⟨fun _ => rfl, fun _ _ => rfl⟩,
          List.filterMap_eq_nil_iff]
        rintro (_ | ⟨letter, add⟩) _ <;> rfl
      rw [step, hHandle, Gateway.detectorPackets, hLog, List.filterMap_append, hQuiet]
      exact List.append_nil _
    · rw [step, hPost]
      rfl
    · rw [step, hMove]
      rfl
  | hmi reads =>
    obtain ⟨hT, hF, hE⟩ := wiredReport_effect reads g
    rcases hmiProcess_cases reads g with
      ⟨_, start, hNext⟩ | ⟨_, hNext⟩ | ⟨_, ⟨_, hNext⟩ | ⟨_, hNext⟩ | ⟨_, hNext⟩⟩
    · rw [step, hNext]
      rfl
    · rw [step, hNext, wiredRegister]
      split
      · rename_i c _
        exact quiet (e := .wiredSlot c) rfl rfl
      · rfl
    · exact quiet ((congrArg Gateway.log hNext).trans hT.log) rfl
    · exact quiet ((congrArg Gateway.log hNext).trans hF.log) rfl
    · exact quiet ((congrArg Gateway.log hNext).trans hE.log) rfl
  | addSub code | stopAddSub | updateFw | networkType | mqttDisconnected => rfl
  | removeSub node =>
    rcases removeSubDevices_cases node g with ⟨_, hErase⟩ | ⟨_, hSame⟩
    · exact quiet (congrArg Gateway.log hErase) rfl
    · rw [step, hSame]
  | mqttConnected =>
    obtain ⟨_, _, _, hConnected⟩ := mqttConnected_eq g
    rw [step, hConnected]
    rfl
  | mqttSend => exact absurd rfl hEvent
  | heartbeat now id =>
    simp only [step, checkHeartbeat]
    split
    · split <;> rfl
    · rfl

/-! ## Runs of the gateway -/

/-- An operation of the tasks that post; what they post without a detector is not about one. -/
def BusOp.Posts : BusOp → Prop
  | .take | .publish => False
  | .notice event => event.detectorEvent? = none
  | _ => True

/-- An entry has a detector if its event is about one. -/
def QueueEntry.Labelled (entry : QueueEntry) : Prop :=
  entry.about?.map Prod.fst = entry.event.detectorEvent?

structure Bus.Rests (b : Bus) : Prop where
  hand : b.hand = none
  labelled : ∀ entry ∈ b.dataProcess, entry.Labelled

/-- Between two jobs the bus has the queue of the gateway, and has published the packets of the
gateway that an event of the queue asked for. -/
structure Bus.Shows (b : Bus) (g : Gateway) : Prop where
  rests : b.Rests
  view : b.view = g.busView
  published : LeavesFeedback b.published g.detectorPackets

theorem send_posts {b : Bus} {entry : QueueEntry} (hEntry : entry.Labelled) (h : b.Rests) :
    (b.send entry).published = b.published ∧ (b.send entry).Rests := by
  unfold Bus.send
  split
  · refine ⟨rfl, h.hand, fun other hOther => ?_⟩
    obtain hOld | hNew := List.mem_append.mp hOther
    · exact h.labelled other hOld
    · exact List.mem_singleton.mp hNew ▸ hEntry
  · exact ⟨rfl, h.hand, h.labelled⟩

theorem exec_posts (task : BusTask) {op : BusOp} (hOp : op.Posts) {b : Bus} (h : b.Rests) :
    (b.exec task op).published = b.published ∧ (b.exec task op).Rests := by
  cases op with
  | write d => exact ⟨rfl, h.hand, h.labelled⟩
  | post event =>
    have hEntry : (QueueEntry.about event (b.wrote task)).Labelled := by cases event <;> rfl
    exact send_posts hEntry h
  | notice event =>
    have hEntry : (QueueEntry.notice event).Labelled := Eq.symm hOp
    exact send_posts hEntry h
  | take | publish => exact hOp.elim

theorem runScript_posts (task : BusTask) {script : List BusOp} (hScript : ∀ op ∈ script, op.Posts)
    {b : Bus} (h : b.Rests) : (busProgram.runScript task b script).published = b.published ∧
      (busProgram.runScript task b script).Rests := by
  induction script generalizing b with
  | nil => exact ⟨rfl, h⟩
  | cons op rest ih =>
    obtain ⟨hOp, hRest⟩ := List.forall_mem_cons.mp hScript
    obtain ⟨hSame, hNext⟩ := exec_posts task hOp h
    obtain ⟨hAll, hLast⟩ := ih hRest hNext
    exact ⟨hAll.trans hSame, hLast⟩

theorem runJobs_posts {jobs : List BusJob} (hJobs : ∀ job ∈ jobs, ∀ op ∈ job.script, op.Posts)
    {b : Bus} (h : b.Rests) :
    (b.runJobs jobs).published = b.published ∧ (b.runJobs jobs).Rests := by
  induction jobs generalizing b with
  | nil => exact ⟨rfl, h⟩
  | cons job rest ih =>
    obtain ⟨hJob, hRest⟩ := List.forall_mem_cons.mp hJobs
    obtain ⟨hSame, hNext⟩ := runScript_posts job.task hJob h
    obtain ⟨hAll, hLast⟩ := ih hRest hNext
    exact ⟨hAll.trans hSame, hLast⟩

theorem reports_posts (adds : List Nat) (registers : Bool) :
    ∀ op ∈ (BusJob.reports adds registers).script, op.Posts := by
  cases adds with
  | nil => exact nofun
  | cons add adds =>
    rw [BusJob.script, List.forall_mem_append, List.forall_mem_append, List.forall_mem_cons,
      List.forall_mem_map]
    refine ⟨⟨⟨trivial, fun _ _ => trivial⟩, ?_⟩, List.forall_mem_singleton.mpr trivial⟩
    cases registers with
    | false => exact nofun
    | true => exact List.forall_mem_singleton.mpr trivial

/-- Only the send task takes and publishes. -/
theorem busJobs_posts (g : Gateway) {event : Event} (hEvent : event ≠ .mqttSend) :
    ∀ job ∈ busJobs g event, ∀ op ∈ job.script, op.Posts := by
  have one : ∀ {job : BusJob}, (∀ op ∈ job.script, op.Posts) →
      ∀ job' ∈ [job], ∀ op ∈ job'.script, op.Posts := fun h => List.forall_mem_singleton.mpr h
  cases event with
  | rf input =>
    rw [busJobs]
    split
    · exact one (List.forall_mem_singleton.mpr rfl)
    · exact one (reports_posts _ _)
  | hmi reads =>
    rw [busJobs]
    split
    · intro job hJob
      obtain ⟨c, -, rfl⟩ := List.mem_map.mp hJob
      simp [BusJob.script, BusOp.Posts]
    · exact one (by simp [BusJob.script, BusOp.Posts])
    · exact nofun
  | addSub code | stopAddSub | updateFw | networkType =>
    exact one (List.forall_mem_singleton.mpr rfl)
  | removeSub node =>
    rw [busJobs]
    split
    · exact one (List.forall_mem_singleton.mpr trivial)
    · exact nofun
  | mqttConnected =>
    rw [busJobs]
    split
    · exact nofun
    · refine List.forall_mem_cons.mpr ⟨List.forall_mem_singleton.mpr rfl, ?_⟩
      split
      · exact one (List.forall_mem_singleton.mpr rfl)
      · exact nofun
  | mqttDisconnected => exact nofun
  | mqttSend => exact absurd rfl hEvent
  | heartbeat now id =>
    rw [busJobs]
    split
    · split
      · exact one (by simp [BusJob.script, BusOp.Posts])
      · exact nofun
    · exact nofun

/-- The send task publishes the packet of the event that it takes. -/
theorem mqttSend_shows {g : Gateway} {b : Bus} (h : b.Shows g) :
    (b.runJobs (busJobs g .mqttSend)).Rests ∧
      LeavesFeedback (b.runJobs (busJobs g .mqttSend)).published
        (mqttSendTask g).detectorPackets := by
  have hQueue : b.dataProcess.map QueueEntry.event = g.dataProcess := congrArg Prod.snd h.view
  have hCur : b.curDetector = g.sensorData.curDetector := congrArg Prod.fst h.view
  rw [busJobs, mqttSendTask]
  split
  · cases hEntries : b.dataProcess with
    | nil =>
      rw [hEntries] at hQueue
      rw [send_empty h.rests.hand hEntries, ← hQueue]
      exact ⟨h.rests, h.published⟩
    | cons entry entries =>
      rw [hEntries] at hQueue
      rw [send_cons h.rests.hand hEntries, ← hQueue, List.map_cons]
      have hLabelled := hEntries ▸ h.rests.labelled
      obtain ⟨hEntry, hRest⟩ := List.forall_mem_cons.mp hLabelled
      refine ⟨⟨h.rests.hand, hRest⟩, ?_⟩
      obtain ⟨packets, hPackets, hLeaves⟩ := handleDataEvent_packets entry.event
        { g with dataProcess := entries.map QueueEntry.event }
      dsimp only
      rw [hPackets]
      refine h.published.append ?_
      rw [← hEntry, ← hCur] at hLeaves
      cases hAbout : entry.about? <;> rw [hAbout] at hLeaves <;> exact hLeaves
  · exact ⟨h.rests, h.published⟩

theorem step_shows {g : Gateway} (hIdle : g.isSensorFeedback = false) (event : Event) {b : Bus}
    (h : b.Shows g) : (b.runJobs (busJobs g event)).Shows (step g event) := by
  have hView := step_view hIdle event h.view h.rests.hand
  by_cases hEvent : event = .mqttSend
  · subst hEvent
    obtain ⟨hRests, hPublished⟩ := mqttSend_shows h
    exact ⟨hRests, hView, hPublished⟩
  · obtain ⟨hSame, hRests⟩ := runJobs_posts (busJobs_posts g hEvent) h.rests
    refine ⟨hRests, hView, ?_⟩
    rw [hSame, step_detectorPackets g hEvent]
    exact h.published

def busJobsOfRun (g : Gateway) : List Event → List BusJob
  | [] => []
  | event :: rest => busJobs g event ++ busJobsOfRun (step g event) rest

theorem run_shows (events : List Event) {g : Gateway} (hIdle : g.isSensorFeedback = false)
    {b : Bus} (h : b.Shows g) : (b.runJobs (busJobsOfRun g events)).Shows (run step g events) := by
  induction events generalizing g b with
  | nil => exact h
  | cons event rest ih =>
    rw [busJobsOfRun, Bus.runJobs, List.foldl_append]
    exact ih (step_isSensorFeedback hIdle event) (step_shows hIdle event h)

theorem run_schedules (jobs : List BusJob) (b : Bus) :
    run busProgram.step (Config.idle b) (jobs.flatMap busProgram.schedule) =
      Config.idle (b.runJobs jobs) := by
  induction jobs generalizing b with
  | nil => rfl
  | cons job rest ih =>
    rw [List.flatMap_cons, run_append, Program.run_schedule, ih]
    rfl

/-- Every run of the gateway is one of the interleavings, that of the jobs of its events one after
the other: it has the same queue, and publishes for the same detectors. -/
theorem run_is_interleaving (saved : Option SensorData) (userReset : Bool) (clock : Nat → Int)
    (events : List Event) :
    (run busProgram.step (Config.idle (Bus.start (saved.getD .zero).curDetector))
      ((busJobsOfRun (boot saved userReset clock) events).flatMap
        busProgram.schedule)).shared.Shows (run step (boot saved userReset clock) events) := by
  rw [run_schedules]
  exact run_shows events rfl ⟨⟨rfl, nofun⟩, rfl, .refl []⟩

end FcomGateway
