import Mathlib.Algebra.Group.Int.Defs
import Mathlib.Data.List.Induction
import FcomGateway.Library.EventTrace

/-! # The user button

A press that lasts longer than `USER_RESET_TIME` formats the flash. `button_handler` sees the
button at the scans only; the clock of the first scan of a press is kept as a `uint64_t`.
-/

namespace FcomGateway

open EventTrace

def USER_RESET_TIME : Int := 3000 * 1000

/-- What a call of `button_handler` reads: the pin (`true` is level 1) and the clock. -/
structure Scan where
  level : Bool
  time : Int
  deriving DecidableEq, Repr

inductive ButtonCall
  | flashEraseAllPartions
  | espRestart
  deriving DecidableEq, Repr

structure Button where
  buttonState : UInt8
  perivosTimeButton : Int
  deriving DecidableEq, Repr

/-- The difference of the 64-bit clock and a `uint64_t` is unsigned. -/
def elapsedUint64 (time stored : Int) : Int := (time - stored) % 2 ^ 64

namespace Button

def boot : Button := ⟨0, 0⟩

def buttonHandler (scan : Scan) (s : Button) : Button × List ButtonCall :=
  if scan.level = false then
    if s.buttonState = 0 then (⟨1, scan.time % 2 ^ 64⟩, [])
    else if s.buttonState = 1 then
      if USER_RESET_TIME < elapsedUint64 scan.time s.perivosTimeButton then
        (s, [.flashEraseAllPartions, .espRestart])
      else (s, [])
    else (s, [])
  else ({ s with buttonState := 0 }, [])

/-- After `esp_restart` the variables have their initial values. -/
def scanStep (s : Button) (scan : Scan) : Button :=
  if .espRestart ∈ (buttonHandler scan s).2 then boot else (buttonHandler scan s).1

def Erases (s : Button) (scan : Scan) : Prop :=
  .flashEraseAllPartions ∈ (buttonHandler scan s).2

instance (s : Button) (scan : Scan) : Decidable (s.Erases scan) :=
  inferInstanceAs (Decidable (_ ∈ _))

theorem erases_iff {s : Button} {scan : Scan} : s.Erases scan ↔ scan.level = false ∧
    s.buttonState = 1 ∧ USER_RESET_TIME < elapsedUint64 scan.time s.perivosTimeButton := by
  rw [Erases, buttonHandler]
  split
  · rename_i hLevel
    rw [and_iff_right hLevel]
    split
    · rename_i hZero
      simp [hZero]
    · split
      · rename_i hOne
        rw [and_iff_right hOne]
        split <;> rename_i hTime <;> simp [hTime]
      · rename_i hOne
        simp [hOne]
  · rename_i hLevel
    simp [hLevel]

/-- What a scan leaves behind: no press, the press that it begins, or what was there. -/
theorem scanStep_cases (s : Button) (scan : Scan) :
    (scanStep s scan).buttonState = 0 ∨
    scan.level = false ∧ scanStep s scan = ⟨1, scan.time % 2 ^ 64⟩ ∨
    scan.level = false ∧ scanStep s scan = s := by
  rw [scanStep, buttonHandler]
  split
  · rename_i hLevel
    split
    · exact .inr (.inl ⟨hLevel, rfl⟩)
    · split
      · split
        · exact .inl rfl
        · exact .inr (.inr ⟨hLevel, rfl⟩)
      · exact .inr (.inr ⟨hLevel, rfl⟩)
  · exact .inl rfl

end Button

/-! ## The press behind an erasure -/

/-- A scan that read the pressed button, and after it no scan of the history that did not. -/
def PressedSince (history : List Scan) (press : Scan) : Prop :=
  ∃ before during, history = before ++ press :: during ∧
    ∀ scan ∈ press :: during, scan.level = false

theorem PressedSince.snoc {history : List Scan} {press scan : Scan}
    (h : PressedSince history press) (hLevel : scan.level = false) :
    PressedSince (history ++ [scan]) press := by
  obtain ⟨before, during, rfl, hPressed⟩ := h
  refine ⟨before, during ++ [scan], by simp, ?_⟩
  rw [← List.cons_append, List.forall_mem_append, List.forall_mem_singleton]
  exact ⟨hPressed, hLevel⟩

theorem pressedSince_self (history : List Scan) {scan : Scan} (hLevel : scan.level = false) :
    PressedSince (history ++ [scan]) scan :=
  ⟨history, [], rfl, by simpa using hLevel⟩

theorem PressedSince.mem {history : List Scan} {press : Scan} (h : PressedSince history press) :
    press ∈ history := by
  obtain ⟨before, during, rfl, _⟩ := h
  simp

/-- In state 1 the stored clock is that of a scan since which the button is pressed. -/
def Button.Timing (s : Button) (history : List Scan) : Prop :=
  s.buttonState = 1 → ∃ press, PressedSince history press ∧
    s.perivosTimeButton = press.time % 2 ^ 64

theorem Button.Timing.scanStep {s : Button} {history : List Scan} (h : s.Timing history)
    (scan : Scan) : (Button.scanStep s scan).Timing (history ++ [scan]) := by
  intro hState
  rcases Button.scanStep_cases s scan with hZero | ⟨hLevel, hNext⟩ | ⟨hLevel, hNext⟩
  · rw [hZero] at hState
    exact absurd hState (by decide)
  · rw [hNext]
    exact ⟨scan, pressedSince_self history hLevel, rfl⟩
  · rw [hNext] at hState ⊢
    obtain ⟨press, hPress, hStored⟩ := h hState
    exact ⟨press, hPress.snoc hLevel, hStored⟩

theorem timing_run (history : List Scan) :
    (run Button.scanStep Button.boot history).Timing history := by
  induction history using List.reverseRecOn with
  | nil => exact fun hState => absurd hState (by decide)
  | append_singleton history scan ih =>
    rw [run_append]
    exact ih.scanStep scan

/-- The flash is erased at a scan only when the button was pressed at all scans since one that is
more than three seconds older. -/
theorem erases_only_after_press {history : List Scan} {scan : Scan}
    (hTimes : (history ++ [scan]).Pairwise fun a b => a.time ≤ b.time)
    (hErases : (run Button.scanStep Button.boot history).Erases scan) :
    ∃ press, PressedSince (history ++ [scan]) press ∧ press ∈ history ∧
      3000000 < scan.time - press.time := by
  obtain ⟨hLevel, hState, hElapsed⟩ := Button.erases_iff.mp hErases
  obtain ⟨press, hPress, hStored⟩ := timing_run history hState
  have hOrder : press.time ≤ scan.time :=
    List.pairwise_append.mp hTimes |>.2.2 press hPress.mem scan (List.mem_singleton_self scan)
  refine ⟨press, hPress.snoc hLevel, hPress.mem, ?_⟩
  rw [hStored, elapsedUint64, Int.sub_emod_emod, USER_RESET_TIME] at hElapsed
  -- The times do not decrease, so reducing their difference cannot make it larger.
  have hReduced : (scan.time - press.time) % 2 ^ 64 ≤ scan.time - press.time := by omega
  omega

theorem long_press_erases :
    ∃ press, PressedSince [⟨false, 0⟩, ⟨false, 2000000⟩, ⟨false, 4000000⟩] press ∧
      press ∈ [⟨false, 0⟩, ⟨false, 2000000⟩] ∧ 3000000 < 4000000 - press.time :=
  @erases_only_after_press [⟨false, 0⟩, ⟨false, 2000000⟩] ⟨false, 4000000⟩ (by decide) (by decide)

end FcomGateway
