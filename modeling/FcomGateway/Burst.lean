import FcomGateway.System

/-! # Several reports in one buffer

The loop over a buffer applies every report to the table and leaves one flag and the last address
behind; the event and the heartbeat entry are made from these after the loop.
-/

namespace FcomGateway

open EventTrace

/-- The detectors of the accepted reports of a buffer, in their order. -/
def reporters (list : List Frame) : List Nat := list.filterMap Frame.add?

/-- Each accepted report has posted its event, and its detector is in the heartbeat list with the
current time. -/
def BurstLaw (now : Int) (dtmp : List UInt8) (g : Gateway) : Prop :=
  (sensorDataHandler now dtmp g).dataProcess.count .ssFeedbackFlag =
    g.dataProcess.count .ssFeedbackFlag + (reporters (frames dtmp)).length ∧
  ∀ d ∈ reporters (frames dtmp), ⟨d, now⟩ ∈ (sensorDataHandler now dtmp g).heartbeat

instance (now : Int) (dtmp : List UInt8) (g : Gateway) : Decidable (BurstLaw now dtmp g) :=
  inferInstanceAs (Decidable (_ ∧ ∀ d ∈ reporters (frames dtmp), _))

/-- The queue takes the two events that a call posts at most. -/
def RoomForCall (g : Gateway) : Prop := g.dataProcess.length + 2 ≤ DATA_PROCESS_LENGTH

instance (g : Gateway) : Decidable (RoomForCall g) := inferInstanceAs (Decidable (_ ≤ _))

theorem enqueue_of_room (event : DataEvent) {queue : List DataEvent}
    (h : queue.length < DATA_PROCESS_LENGTH) : enqueue event queue = queue ++ [event] :=
  if_pos h

theorem handler_feedback_count {g : Gateway} (hIdle : g.isSensorFeedback = false)
    (hRoom : RoomForCall g) (now : Int) (dtmp : List UInt8) :
    (sensorDataHandler now dtmp g).dataProcess.count .ssFeedbackFlag =
      g.dataProcess.count .ssFeedbackFlag + if reporters (frames dtmp) = [] then 0 else 1 := by
  have hLength : g.dataProcess.length + 2 ≤ DATA_PROCESS_LENGTH := hRoom
  have hSome : (lastAdd (frames dtmp)).isSome ↔ ¬ reporters (frames dtmp) = [] := by
    rw [lastAdd, List.getLast?_isSome]
    rfl
  rw [sensorDataHandler_dataProcess now dtmp hIdle]
  by_cases hNone : reporters (frames dtmp) = []
  · rw [if_pos hNone, if_neg fun h => hSome.mp h hNone, Nat.add_zero]
  · rw [if_neg hNone, if_pos (hSome.mpr hNone)]
    split
    · rw [enqueue_of_room .ssRegisterServer (by omega),
        enqueue_of_room .ssFeedbackFlag (by simp; omega)]
      simp
    · rw [enqueue_of_room .ssFeedbackFlag (by omega)]
      simp

theorem self_mem_addState (id : Nat) (now : Int) (list : List Dtor) :
    ⟨id, now⟩ ∈ Heartbeat.addState id now list := by
  rcases Heartbeat.split_at_id id list with hNone | ⟨front, found, back, rfl, hFront, hFound⟩
  · rw [Heartbeat.addState, Heartbeat.refresh_eq_none hNone]
    exact List.mem_cons_self
  · rw [Heartbeat.addState, Heartbeat.refresh_append hFront hFound]
    exact List.mem_append_right front List.mem_cons_self

/-- In a call without interference and with room in the queue, every accepted report counts
exactly when there is at most one. -/
theorem burst_iff {g : Gateway} (hIdle : g.isSensorFeedback = false) (hRoom : RoomForCall g)
    (now : Int) (dtmp : List UInt8) :
    BurstLaw now dtmp g ↔ (reporters (frames dtmp)).length ≤ 1 := by
  have hLast : lastAdd (frames dtmp) = (reporters (frames dtmp)).getLast? := rfl
  rw [BurstLaw, handler_feedback_count hIdle hRoom, sensorDataHandler_heartbeat now dtmp hIdle,
    hLast]
  generalize reporters (frames dtmp) = list
  cases list with
  | nil => simp
  | cons d rest =>
    cases rest with
    | nil => simpa using self_mem_addState d now g.heartbeat
    | cons d' rest => simp

theorem burst_of_one_report : BurstLaw 7 (Report.F.bytes 1) (boot none false fun _ => 0) :=
  (burst_iff rfl (by decide) 7 (Report.F.bytes 1)).mpr (by decide)

/-- Detectors 1 and 2 report in one buffer; one event is posted, and only detector 2 is in the
list. -/
theorem first_of_two_reports_lost : ¬ ∀ (now : Int) (dtmp : List UInt8) (g : Gateway),
    g.isSensorFeedback = false → RoomForCall g → BurstLaw now dtmp g := by
  intro h
  have hCall := h 7 (Report.F.bytes 1 ++ Report.F.bytes 2) (boot none false fun _ => 0) rfl
    (by decide)
  revert hCall
  decide

end FcomGateway
