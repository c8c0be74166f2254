import FcomGateway.Library.Ledger
import FcomGateway.Slots

/-! # Confirming a registration

A report confirms the first unused slot up to its own address, under a flag that any earlier
request has left. It confirms its own slot, and the slot announced last, when the reporter is the
detector that was announced last and no lower slot is unused.
-/

namespace FcomGateway

open EventTrace Ledger

def SlotEvent.announced? : SlotEvent → Option Nat
  | .announced slot => some slot
  | _ => none

def lastAnnounced (history : List SlotEvent) : Option Nat :=
  (history.filterMap SlotEvent.announced?).getLast?

/-- A confirmation marks the slot of its reporter, and that is the slot announced last. -/
def ConfirmsRight (before : List SlotEvent) (event : SlotEvent) : Prop :=
  ∀ slot reporter, event = .confirmed slot reporter →
    slot = reporter ∧ lastAnnounced before = some slot

/-- What an event does to `device_activated`. -/
def SlotEvent.mark (activated : Nat → Nat) : SlotEvent → Nat → Nat
  | .announced _ => activated
  | .wired slot | .confirmed slot _ => Function.update activated slot 1
  | .removed slot => Function.update activated slot 0

/-- `device_activated` has changed at the slots of the history and nowhere else. -/
def Allocator.FollowsHistory (activated : Nat → Nat) (p : Allocator) : Prop :=
  p.activated = p.history.foldl SlotEvent.mark activated

/-- Every call of `isRegister2Server` that returned true confirmed the right slot. -/
def RegistrationLaw (g : Gateway) : Prop :=
  Justified ConfirmsRight (g.log.filterMap Observation.slotEvent?)

namespace Allocator

/-- Each operation changes the table as the event that it records. -/
theorem FollowsHistory.apply {activated : Nat → Nat} {p : Allocator}
    (h : p.FollowsHistory activated) (op : AllocOp) : (p.apply op).FollowsHistory activated := by
  have hRecord : ∀ event, (p.history ++ [event]).foldl SlotEvent.mark activated =
      event.mark p.activated := fun event => by
    rw [List.foldl_append, List.foldl_cons, List.foldl_nil, ← h]
  cases op with
  | request =>
    simp only [Allocator.apply]
    cases p.firstUnused with
    | none => exact h
    | some c => exact (hRecord (.announced c)).symm
  | wire =>
    simp only [Allocator.apply]
    cases p.firstUnused with
    | none => exact h
    | some c => exact (hRecord (.wired c)).symm
  | confirm reporter =>
    simp only [Allocator.apply]
    cases p.confirmable reporter with
    | none => exact h
    | some c => exact (hRecord (.confirmed c reporter)).symm
  | remove slot => exact (hRecord (.removed slot)).symm

def RegistrationLaw (p : Allocator) : Prop := Justified ConfirmsRight p.history

/-- While a registration is pending, a reporter with an unused slot at or below its address is
the detector announced last, and the only such slot is its own. -/
def ReporterIsNew (p : Allocator) : AllocOp → Prop
  | .confirm reporter =>
    p.pending = true → reporter ≤ MAX_DECTECTOR + 1 →
      (∃ c, (1 ≤ c ∧ c ≤ reporter) ∧ p.activated c = 0) →
        (∀ c, 1 ≤ c → c < reporter → p.activated c ≠ 0) ∧
          lastAnnounced p.history = some reporter
  | _ => True

theorem confirmable_eq_some {p : Allocator} {reporter c : Nat} :
    p.confirmable reporter = some c ↔ (1 ≤ reporter ∧ reporter ≤ MAX_DECTECTOR + 1) ∧
      p.pending = true ∧ (1 ≤ c ∧ c ≤ reporter) ∧ p.activated c = 0 ∧
        ∀ j, 1 ≤ j → j < c → p.activated j ≠ 0 := by
  unfold confirmable
  split
  · refine iff_of_false (fun h => by cases h) ?_
    rintro ⟨⟨hLow, hHigh⟩, _⟩
    omega
  · rename_i hRange
    rw [List.find?_range'_eq_some]
    simp only [decide_eq_true_eq, List.mem_range'_1, Bool.not_eq_true', decide_eq_false_iff_not,
      ne_eq, Bool.not_eq_false]
    constructor
    · rintro ⟨⟨hFree, hPending⟩, ⟨hLow, hHigh⟩, hFirst⟩
      exact ⟨by omega, hPending, ⟨hLow, by omega⟩, hFree, fun j h1 h2 hj =>
        hFirst j h1 h2 ⟨hj, hPending⟩⟩
    · rintro ⟨_, hPending, ⟨hLow, hHigh⟩, hFree, hFirst⟩
      exact ⟨⟨hFree, hPending⟩, ⟨hLow, by omega⟩, fun j h1 h2 hj => hFirst j h1 h2 hj.1⟩

theorem confirmable_isSome {p : Allocator} {reporter : Nat} (hPending : p.pending = true)
    (hHigh : reporter ≤ MAX_DECTECTOR + 1)
    (hFree : ∃ c, (1 ≤ c ∧ c ≤ reporter) ∧ p.activated c = 0) :
    p.confirmable reporter ≠ none := by
  obtain ⟨c, hRange, hUnused⟩ := hFree
  have hCall : ¬ (MAX_DECTECTOR + 1 < reporter ∨ reporter < 1) := by omega
  rw [confirmable, if_neg hCall, ne_eq, List.find?_eq_none]
  intro hNone
  exact hNone c (List.mem_range'_1.mpr ⟨hRange.1, by omega⟩) (by simp [hUnused, hPending])

theorem registrationLaw_of_apply {p : Allocator} {op : AllocOp}
    (h : (p.apply op).RegistrationLaw) : p.RegistrationLaw := by
  rw [RegistrationLaw] at h
  rcases apply_history p op with hSame | ⟨e, hMore⟩
  · rw [hSame] at h
    exact h
  · rw [hMore, justified_concat_iff] at h
    exact h.1

theorem registrationLaw_apply_iff {p : Allocator} (h : p.RegistrationLaw) (op : AllocOp) :
    (p.apply op).RegistrationLaw ↔ p.ReporterIsNew op := by
  cases op with
  | request | wire =>
    simp only [apply]
    cases p.firstUnused with
    | none => exact iff_of_true h trivial
    | some c =>
      exact iff_of_true (justified_concat_iff.mpr ⟨h, fun _ _ hEvent => by cases hEvent⟩) trivial
  | remove slot =>
    exact iff_of_true (justified_concat_iff.mpr ⟨h, fun _ _ hEvent => by cases hEvent⟩) trivial
  | confirm reporter =>
    simp only [apply, ReporterIsNew]
    cases hConfirm : p.confirmable reporter with
    | none =>
      exact iff_of_true h fun hPending hHigh hFree =>
        absurd hConfirm (confirmable_isSome hPending hHigh hFree)
    | some c =>
      obtain ⟨⟨hLow, hHigh⟩, hPending, hRange, hUnused, hFirst⟩ := confirmable_eq_some.mp hConfirm
      refine (justified_concat_iff.trans (and_iff_right h)).trans ?_
      constructor
      · intro hRight _ _ _
        obtain ⟨rfl, hLast⟩ := hRight c reporter rfl
        exact ⟨hFirst, hLast⟩
      · intro hNew slot reporter' hEvent
        cases hEvent
        obtain ⟨hLower, hLast⟩ := hNew hPending hHigh ⟨c, hRange, hUnused⟩
        have hSlot : c = reporter := by
          by_contra hNe
          exact hLower c hRange.1 (lt_of_le_of_ne hRange.2 hNe) hUnused
        exact ⟨hSlot, hSlot ▸ hLast⟩

theorem registrationLaw_run_iff {p : Allocator} (h : p.RegistrationLaw) (ops : List AllocOp) :
    (run Allocator.apply p ops).RegistrationLaw ↔ Along Allocator.apply ReporterIsNew p ops :=
  (always_iff_run fun _ _ => registrationLaw_of_apply).symm.trans
    (always_iff_along (J := fun _ => True) (fun _ _ _ => trivial)
      (fun _ op _ hLaw => registrationLaw_apply_iff hLaw op) trivial h)

end Allocator

def ReporterIsNew (g : Gateway) (event : Event) : Prop :=
  Along Allocator.apply Allocator.ReporterIsNew g.allocator (allocOps g event)

/-- Registrations confirm the right detector after every event exactly when, in every event, the
detector whose report confirms is the one announced last and has no unused slot below it. All
along, the table is the one that was saved, changed at the slots of the history. -/
theorem registrationLaw_always_iff (saved : Option SensorData) (userReset : Bool)
    (clock : Nat → Int) (events : List Event) :
    (Always step RegistrationLaw (boot saved userReset clock) events ↔
      Along step ReporterIsNew (boot saved userReset clock) events) ∧
    Always step (fun g => g.allocator.FollowsHistory (saved.getD .zero).deviceActivated)
      (boot saved userReset clock) events := by
  have hLaw : Always step RegistrationLaw (boot saved userReset clock) events ↔
      Along step ReporterIsNew (boot saved userReset clock) events := by
    refine always_iff_along (J := fun g => g.isSensorFeedback = false)
      (fun g event hIdle => step_isSensorFeedback hIdle event) ?_ rfl (justified_nil _)
    intro g event hIdle hLaw
    change (step g event).allocator.RegistrationLaw ↔ _
    rw [allocator_step hIdle]
    exact Allocator.registrationLaw_run_iff (p := g.allocator) hLaw _
  refine ⟨hLaw, ?_⟩
  refine (always_of_kept (I := fun g => g.isSensorFeedback = false ∧
    g.allocator.FollowsHistory (saved.getD .zero).deviceActivated) ?_ ⟨rfl, rfl⟩ events).mono
      fun _ h => h.2
  rintro g event ⟨hIdle, hTable⟩
  refine ⟨step_isSensorFeedback hIdle event, ?_⟩
  rw [allocator_step hIdle]
  exact run_invariant (I := Allocator.FollowsHistory _) (fun _ op h => h.apply op) hTable _

/-- A request is answered with slot 1, and the next report, from detector 5, confirms it. -/
theorem other_detector_confirms : ¬ ∀ (saved : Option SensorData) (events : List Event),
    Always step RegistrationLaw (boot saved false fun _ => 0) events := by
  intro h
  have hRun := (h none (startListening ++
    [uartData requestBytes, .rf ⟨false, none⟩, uartData (Report.F.bytes 5)])).last
  have hHistory : ((run step (boot none false fun _ => 0) (startListening ++
      [uartData requestBytes, .rf ⟨false, none⟩, uartData (Report.F.bytes 5)])).log.filterMap
        Observation.slotEvent?) = [.announced 1, .confirmed 1 5] := by decide
  rw [RegistrationLaw, hHistory] at hRun
  have hEqual := (hRun [.announced 1] (.confirmed 1 5) [] rfl 1 5 rfl).1
  cases hEqual

end FcomGateway
