import FcomGateway.Library.Ledger
import FcomGateway.Slots

/-! # Unique addresses

A slot that was handed out may be handed out again only after its removal. The table protects a
slot from the moment it is marked used; a slot announced over RF is marked only when some report
confirms it, and until then the next hand-out can pick it again.
-/

namespace FcomGateway

open EventTrace Ledger

namespace SlotEvent

def handsOut : SlotEvent → Option Nat
  | announced slot => some slot
  | wired slot => some slot
  | _ => none

def removes : SlotEvent → Option Nat
  | removed slot => some slot
  | _ => none

def announces : SlotEvent → Option Nat
  | announced slot => some slot
  | _ => none

def settles : SlotEvent → Option Nat
  | confirmed slot _ => some slot
  | removed slot => some slot
  | _ => none

end SlotEvent

/-- Any two hand-outs of one slot are separated by a removal of that slot. -/
def UniqueAddresses (g : Gateway) : Prop :=
  Exclusive SlotEvent.handsOut SlotEvent.removes (g.log.filterMap Observation.slotEvent?)

namespace Allocator

def UniqueAddresses (p : Allocator) : Prop :=
  Exclusive SlotEvent.handsOut SlotEvent.removes p.history

/-- The slot was announced, and since then neither confirmed nor removed. -/
def Unconfirmed (p : Allocator) (slot : Nat) : Prop :=
  Outstanding SlotEvent.announces SlotEvent.settles p.history slot

def HandsOutFresh (p : Allocator) : AllocOp → Prop
  | .request | .wire => ∀ c, p.firstUnused = some c → ¬ p.Unconfirmed c
  | _ => True

/-- For an unused slot, handed out and not removed means announced and not confirmed. -/
def Tracks (p : Allocator) : Prop :=
  ∀ c, p.activated c = 0 →
    (Outstanding SlotEvent.handsOut SlotEvent.removes p.history c ↔ p.Unconfirmed c)

theorem firstUnused_activated {p : Allocator} {c : Nat} (h : p.firstUnused = some c) :
    p.activated c = 0 := by
  have hTest := List.find?_some h
  exact of_decide_eq_true hTest

theorem UniqueAddresses.of_apply {p : Allocator} {op : AllocOp}
    (h : (p.apply op).UniqueAddresses) : p.UniqueAddresses := by
  rw [UniqueAddresses] at h
  rcases apply_history p op with hSame | ⟨e, hMore⟩
  · rw [hSame] at h
    exact h
  · rw [hMore, exclusive_concat_iff] at h
    exact h.1

theorem uniqueAddresses_apply_iff {p : Allocator} (hTracks : p.Tracks)
    (h : p.UniqueAddresses) (op : AllocOp) :
    (p.apply op).UniqueAddresses ↔ p.HandsOutFresh op := by
  cases op with
  | request | wire =>
    simp only [apply, HandsOutFresh]
    cases hFirst : p.firstUnused with
    | none => exact iff_of_true h fun c hc => by cases hc
    | some c =>
      have hFree := hTracks c (firstUnused_activated hFirst)
      refine (exclusive_concat_iff.trans (and_iff_right h)).trans ?_
      constructor
      · rintro hOut k hk
        cases hk
        exact fun hUnconfirmed => hOut c rfl (hFree.mpr hUnconfirmed)
      · rintro hUnconfirmed k hk
        cases hk
        exact fun hOut => hUnconfirmed c rfl (hFree.mp hOut)
  | confirm reporter =>
    simp only [apply]
    cases p.confirmable reporter with
    | none => exact iff_of_true h trivial
    | some c => exact iff_of_true (exclusive_concat_iff.mpr ⟨h, fun k hk => by cases hk⟩) trivial
  | remove slot =>
    exact iff_of_true (exclusive_concat_iff.mpr ⟨h, fun k hk => by cases hk⟩) trivial

theorem unused_of_update (activated : Nat → Nat) {c k : Nat}
    (h : Function.update activated c 1 k = 0) : k ≠ c ∧ activated k = 0 := by
  by_cases hEq : k = c
  · rw [hEq, Function.update_self] at h
    cases h
  · rw [Function.update_of_ne hEq] at h
    exact ⟨hEq, h⟩

/-- An entry keeps the two readings together where it opens and closes them alike. -/
theorem Tracks.concat {p next : Allocator} {e : SlotEvent} (h : p.Tracks)
    (hHistory : next.history = p.history ++ [e])
    (hSame : ∀ c, next.activated c = 0 →
      (e.handsOut = some c ↔ e.announces = some c) ∧ (e.removes = some c ↔ e.settles = some c) ∧
        (p.activated c = 0 ∨ e.removes = some c)) : next.Tracks := by
  intro c hc
  obtain ⟨hOpen, hClose, hBefore⟩ := hSame c hc
  rw [Unconfirmed, hHistory, outstanding_concat, outstanding_concat, hOpen, ne_eq, hClose]
  rcases hBefore with hFree | hRemoved
  · rw [h c hFree]
    rfl
  · simp [hClose.mp hRemoved]

theorem Tracks.apply {p : Allocator} (h : p.Tracks) (op : AllocOp) : (p.apply op).Tracks := by
  cases op with
  | request =>
    simp only [Allocator.apply]
    cases p.firstUnused with
    | none => exact h
    | some c => exact h.concat rfl fun k hk => ⟨Iff.rfl, Iff.rfl, Or.inl hk⟩
  | wire =>
    simp only [Allocator.apply]
    cases p.firstUnused with
    | none => exact h
    | some c =>
      refine h.concat rfl fun k hk => ?_
      obtain ⟨hOther, hFree⟩ := unused_of_update p.activated hk
      exact ⟨by simp [SlotEvent.handsOut, SlotEvent.announces, hOther.symm], Iff.rfl,
        Or.inl hFree⟩
  | confirm reporter =>
    simp only [Allocator.apply]
    cases p.confirmable reporter with
    | none => exact h
    | some c =>
      refine h.concat rfl fun k hk => ?_
      obtain ⟨hOther, hFree⟩ := unused_of_update p.activated hk
      exact ⟨Iff.rfl, by simp [SlotEvent.removes, SlotEvent.settles, hOther.symm],
        Or.inl hFree⟩
  | remove slot =>
    refine h.concat rfl fun k hk => ⟨Iff.rfl, Iff.rfl, ?_⟩
    by_cases hEq : k = slot
    · exact Or.inr (congrArg some hEq.symm)
    · have hBefore : Function.update p.activated slot 0 k = 0 := hk
      rw [Function.update_of_ne hEq] at hBefore
      exact Or.inl hBefore

theorem uniqueAddresses_run_iff {p : Allocator} (hTracks : p.Tracks) (h : p.UniqueAddresses)
    (ops : List AllocOp) :
    (run Allocator.apply p ops).UniqueAddresses ↔ Along Allocator.apply HandsOutFresh p ops :=
  (always_iff_run fun _ _ => UniqueAddresses.of_apply).symm.trans
    (always_iff_along (fun _ op hInv => Tracks.apply hInv op)
      (fun _ op hInv hLaw => uniqueAddresses_apply_iff hInv hLaw op) hTracks h)

end Allocator

def HandsOutFresh (g : Gateway) (event : Event) : Prop :=
  Along Allocator.apply Allocator.HandsOutFresh g.allocator (allocOps g event)

/-- Addresses are unique after every event exactly when no slot is handed out while an earlier
announcement of it is neither confirmed nor removed. -/
theorem uniqueAddresses_always_iff (saved : Option SensorData) (userReset : Bool)
    (clock : Nat → Int) (events : List Event) :
    Always step UniqueAddresses (boot saved userReset clock) events ↔
      Along step HandsOutFresh (boot saved userReset clock) events := by
  refine always_iff_along (J := fun g => g.isSensorFeedback = false ∧ g.allocator.Tracks)
    ?_ ?_ ⟨rfl, ?_⟩ exclusive_nil
  · rintro g event ⟨hIdle, hTracks⟩
    refine ⟨step_isSensorFeedback hIdle event, ?_⟩
    rw [allocator_step hIdle]
    exact run_invariant (I := Allocator.Tracks) (fun _ op h => h.apply op) hTracks _
  · rintro g event ⟨hIdle, hTracks⟩ hLaw
    change (step g event).allocator.UniqueAddresses ↔ _
    rw [allocator_step hIdle]
    exact Allocator.uniqueAddresses_run_iff hTracks hLaw _
  · exact fun c _ => iff_of_false (not_outstanding_nil c) (not_outstanding_nil c)

/-- Two requests before the first report are answered with the same slot. -/
theorem same_slot_handed_out_twice : ¬ ∀ (saved : Option SensorData) (events : List Event),
    Always step UniqueAddresses (boot saved false fun _ => 0) events := by
  intro h
  have hRun := (h none (startListening ++ [uartData (requestBytes ++ requestBytes)])).last
  have hHistory : ((run step (boot none false fun _ => 0) (startListening ++
      [uartData (requestBytes ++ requestBytes)])).log.filterMap Observation.slotEvent?) =
      [.announced 1, .announced 1] := by decide
  rw [UniqueAddresses, hHistory] at hRun
  obtain ⟨x, hx, _⟩ := hRun 1 [] (.announced 1) [] (.announced 1) [] rfl rfl rfl
  cases hx

end FcomGateway
