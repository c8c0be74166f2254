import FcomGateway.Library.Ledger

/-! # Handles that calls get and release

A log of calls, each of which may open a handle, get one and release one; what it gets may be
the null handle. A call is in order when the handle it gets was opened and not released since.
-/

namespace Handles

open Ledger

universe u v

variable {E : Type u} {K : Type v} (passes : E → Option (Option K)) (opens closes : E → Option K)

def Held (before : List E) (e : E) : Prop :=
  ∀ handle ∈ passes e, ∃ h, handle = some h ∧ Outstanding opens closes before h

/-- The call gets this handle and leaves it open. -/
structure Uses (h : K) (e : E) : Prop where
  passed : passes e = some (some h)
  opened : opens e = none
  released : closes e = none

structure Opens (h : K) (e : E) : Prop where
  passed : passes e = none
  opened : opens e = some h
  released : closes e = none

structure Closes (h : K) (e : E) : Prop where
  passed : passes e = some (some h)
  opened : opens e = none
  released : closes e = some h

/-- A log in order, with this handle held at its end. -/
def Holding (h : K) (log : List E) : Prop :=
  Justified (Held passes opens closes) log ∧ Outstanding opens closes log h

variable {passes opens closes} {h : K} {log uses : List E} {e opening closing : E}

theorem held_of_passed (hPassed : passes e = some (some h))
    (hOut : Outstanding opens closes log h) : Held passes opens closes log e := by
  intro handle hHandle
  rw [hPassed] at hHandle
  cases hHandle
  exact ⟨h, rfl, hOut⟩

theorem not_held_null (hNull : passes e = some none) : ¬ Held passes opens closes log e := by
  intro hHeld
  obtain ⟨h, hSome, _⟩ := hHeld none hNull
  cases hSome

theorem Opens.holding (hOpen : Opens passes opens closes h e)
    (hLog : Justified (Held passes opens closes) log) :
    Holding passes opens closes h (log ++ [e]) := by
  refine ⟨justified_concat_iff.mpr ⟨hLog, fun handle hHandle => ?_⟩,
    outstanding_concat.mpr (.inl hOpen.opened)⟩
  rw [hOpen.passed] at hHandle
  cases hHandle

theorem Holding.append (hLog : Holding passes opens closes h log)
    (hUses : ∀ e ∈ uses, Uses passes opens closes h e) :
    Holding passes opens closes h (log ++ uses) := by
  induction uses generalizing log with
  | nil => rwa [List.append_nil]
  | cons e rest ih =>
    rw [List.forall_mem_cons] at hUses
    rw [List.append_cons]
    refine ih ⟨justified_concat_iff.mpr ⟨hLog.1, held_of_passed hUses.1.passed hLog.2⟩,
      outstanding_concat.mpr (.inr ⟨hLog.2, ?_⟩)⟩ hUses.2
    rw [hUses.1.released]
    nofun

theorem Holding.release (hLog : Holding passes opens closes h log)
    (hPassed : passes e = some (some h)) :
    Justified (Held passes opens closes) (log ++ [e]) :=
  justified_concat_iff.mpr ⟨hLog.1, held_of_passed hPassed hLog.2⟩

/-- A handle that a call has released is not given to the next call. -/
theorem not_held_twice (hReleased : closes opening = some h) (hOpened : opens opening = none)
    (hPassed : passes closing = some (some h)) :
    ¬ Justified (Held passes opens closes) (log ++ [opening] ++ [closing]) := by
  intro hHeld
  obtain ⟨k, hk, hOut⟩ := (justified_concat_iff.mp hHeld).2 (some h) hPassed
  cases hk
  rcases outstanding_concat.mp hOut with hOpen | ⟨_, hClose⟩
  · rw [hOpened] at hOpen
    cases hOpen
  · exact hClose hReleased

/-! ## Sessions -/

section Session

variable (hOpen : Opens passes opens closes h opening)
  (hUses : ∀ e ∈ uses, Uses passes opens closes h e)
  (hClose : Closes passes opens closes h closing)

include hOpen hUses hClose

/-- A handle may be opened, used and released whatever was done before. -/
theorem session_justified (hLog : Justified (Held passes opens closes) log) :
    Justified (Held passes opens closes) (log ++ opening :: (uses ++ [closing])) := by
  rw [List.append_cons, ← List.append_assoc]
  exact ((hOpen.holding hLog).append hUses).release hClose.passed

theorem session_balanced : (opening :: (uses ++ [closing])).filterMap closes =
    (opening :: (uses ++ [closing])).filterMap opens := by
  have hReleased : uses.filterMap closes = [] :=
    List.filterMap_eq_nil_iff.mpr fun e he => (hUses e he).released
  have hOpened : uses.filterMap opens = [] :=
    List.filterMap_eq_nil_iff.mpr fun e he => (hUses e he).opened
  rw [List.filterMap_cons_none hOpen.released, List.filterMap_cons_some hOpen.opened,
    List.filterMap_append, List.filterMap_append, hReleased, hOpened,
    List.filterMap_cons_some hClose.released, List.filterMap_cons_none hClose.opened]
  rfl

theorem session_answered : Answered opens closes (opening :: (uses ++ [closing])) := by
  refine answered_iff.mpr fun k hOut => ?_
  rw [← List.cons_append] at hOut
  rcases outstanding_concat.mp hOut with hOpened | ⟨hBefore, hReleased⟩
  · rw [hClose.opened] at hOpened
    cases hOpened
  · rw [← List.nil_append (opening :: uses)] at hBefore
    rcases hBefore.of_append with hNone | ⟨e, he, hOpened⟩
    · exact not_outstanding_nil k hNone
    · rcases List.mem_cons.mp he with rfl | hUse
      · exact hReleased (hClose.released.trans (hOpen.opened.symm.trans hOpened))
      · rw [(hUses e hUse).opened] at hOpened
        cases hOpened

end Session

end Handles
