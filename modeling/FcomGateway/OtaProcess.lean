import FcomGateway.Library.Handles
import FcomGateway.PlantControl

/-! # The handle of an update

`esp_https_ota_finish` and `esp_https_ota_abort` release the handle whatever they return, and
`esp_https_ota_begin` gives none when it fails. All failing paths of `ota_process` but the first
meet at its label `ota_end`.
-/

namespace FcomGateway

open Ledger

inductive EspErr
  | ok
  | httpsOtaInProgress
  | otaValidateFailed
  | other
  deriving DecidableEq, Repr

structure OtaOutcomes where
  begin : Option Nat
  imgDesc : EspErr
  /-- The calls of `esp_https_ota_perform` that ask for another one. -/
  inProgress : Nat
  perform : EspErr
  completeDataReceived : Bool
  finish : EspErr
  performed : perform ≠ .httpsOtaInProgress

/-- The calls with the handle that they give or get; `none` is `NULL`. -/
inductive OtaCall
  | begin (handle : Option Nat)
  | getImgDesc (handle : Option Nat)
  | perform (handle : Option Nat)
  | getImageLenRead (handle : Option Nat)
  | isCompleteDataReceived (handle : Option Nat)
  | finish (handle : Option Nat)
  | abort (handle : Option Nat)
  deriving DecidableEq, Repr

namespace OtaCall

def opened? : OtaCall → Option Nat
  | begin handle => handle
  | _ => none

def passed? : OtaCall → Option (Option Nat)
  | begin _ => none
  | getImgDesc handle | perform handle | getImageLenRead handle | isCompleteDataReceived handle
  | finish handle | abort handle => some handle

def released? : OtaCall → Option Nat
  | finish handle | abort handle => handle
  | _ => none

end OtaCall

/-- The variables that `ota_process` leaves behind; it returns, or restarts the device. -/
structure OtaEnd where
  calls : List OtaCall
  isStartOta : OtaState
  otaInforLength : Nat
  otaMessageLink : List UInt8
  returned : Option Bool

def performLoop (handle : Option Nat) : Nat → List OtaCall
  | 0 => [.perform handle]
  | inProgress + 1 =>
    .perform handle :: .getImageLenRead handle :: performLoop handle inProgress

/-- From the label `ota_end` on. -/
def otaEnd (handle : Option Nat) (calls : List OtaCall) : OtaEnd where
  calls := calls ++ [.abort handle]
  isStartOta := .otaPending
  otaInforLength := 0
  otaMessageLink := []
  returned := some false

/-- The failure of `esp_https_ota_begin` is logged only. -/
def otaProcess (o : OtaOutcomes) (otaInforLength : Nat) (otaMessageLink : List UInt8) : OtaEnd :=
  let handle := o.begin
  let calls := [.begin handle, .getImgDesc handle]
  if o.imgDesc ≠ .ok then otaEnd handle calls
  else
    let calls := calls ++ performLoop handle o.inProgress ++ [.isCompleteDataReceived handle]
    if o.completeDataReceived ≠ true then otaEnd handle calls
    else
      let calls := calls ++ [.finish handle]
      if o.perform = .ok ∧ o.finish = .ok then
        { calls := calls
          isStartOta := .otaDone
          otaInforLength := otaInforLength
          otaMessageLink := otaMessageLink
          returned := none }
      else otaEnd handle calls

/-- Every call gets a handle that is held, each handle is released exactly once, and a run that
returns leaves no update pending but the next. -/
structure OtaHandleLaw (e : OtaEnd) : Prop where
  held : Justified (Handles.Held OtaCall.passed? OtaCall.opened? OtaCall.released?) e.calls
  releasedOnce : e.calls.filterMap OtaCall.released? = e.calls.filterMap OtaCall.opened?
  pending : e.returned ≠ none → e.isStartOta = .otaPending

/-- The handle is there, and `esp_https_ota_finish` is not reached by a failing path. -/
def OtaOutcomes.Disciplined (o : OtaOutcomes) : Prop :=
  o.begin ≠ none ∧ (o.imgDesc = .ok → o.completeDataReceived = true →
    o.perform = .ok ∧ o.finish = .ok)

/-! ## The calls with a held handle -/

namespace OtaCall

theorem begin_opens (h : Nat) : Handles.Opens passed? opened? released? h (.begin (some h)) :=
  ⟨rfl, rfl, rfl⟩

theorem getImgDesc_uses (h : Nat) :
    Handles.Uses passed? opened? released? h (.getImgDesc (some h)) :=
  ⟨rfl, rfl, rfl⟩

theorem finish_closes (h : Nat) :
    Handles.Closes passed? opened? released? h (.finish (some h)) :=
  ⟨rfl, rfl, rfl⟩

theorem abort_closes (h : Nat) : Handles.Closes passed? opened? released? h (.abort (some h)) :=
  ⟨rfl, rfl, rfl⟩

theorem performLoop_uses (h inProgress : Nat) : ∀ call ∈ performLoop (some h) inProgress,
    Handles.Uses passed? opened? released? h call := by
  induction inProgress with
  | zero => exact List.forall_mem_singleton.mpr ⟨rfl, rfl, rfl⟩
  | succ inProgress ih =>
    rw [performLoop, List.forall_mem_cons, List.forall_mem_cons]
    exact ⟨⟨rfl, rfl, rfl⟩, ⟨rfl, rfl, rfl⟩, ih⟩

end OtaCall

/-! ## The paths -/

def downloadUses (handle : Option Nat) (inProgress : Nat) : List OtaCall :=
  performLoop handle inProgress ++ [.isCompleteDataReceived handle]

theorem downloadUses_uses (h inProgress : Nat) : ∀ call ∈ downloadUses (some h) inProgress,
    Handles.Uses OtaCall.passed? OtaCall.opened? OtaCall.released? h call := by
  rw [downloadUses, List.forall_mem_append, List.forall_mem_singleton]
  exact ⟨OtaCall.performLoop_uses h inProgress, rfl, rfl, rfl⟩

theorem otaProcess_cases (o : OtaOutcomes) (otaInforLength : Nat) (otaMessageLink : List UInt8) :
    let start : List OtaCall := [.begin o.begin, .getImgDesc o.begin]
    let uses := downloadUses o.begin o.inProgress
    let e := otaProcess o otaInforLength otaMessageLink
    (o.imgDesc ≠ .ok ∧ e = otaEnd o.begin start) ∨
    (o.imgDesc = .ok ∧ o.completeDataReceived = false ∧ e = otaEnd o.begin (start ++ uses)) ∨
    (o.imgDesc = .ok ∧ o.completeDataReceived = true ∧ (o.perform = .ok ∧ o.finish = .ok) ∧
      e.calls = start ++ uses ++ [.finish o.begin] ∧ e.returned = none) ∨
    (o.imgDesc = .ok ∧ o.completeDataReceived = true ∧ ¬ (o.perform = .ok ∧ o.finish = .ok) ∧
      e = otaEnd o.begin (start ++ uses ++ [.finish o.begin])) := by
  simp only [otaProcess, downloadUses, ← List.append_assoc]
  split
  · rename_i hDesc
    exact .inl ⟨hDesc, rfl⟩
  · rename_i hDesc
    rw [not_not] at hDesc
    split
    · rename_i hData
      exact .inr (.inl ⟨hDesc, Bool.eq_false_of_not_eq_true hData, rfl⟩)
    · rename_i hData
      rw [not_not] at hData
      split
      · rename_i hOk
        exact .inr (.inr (.inl ⟨hDesc, hData, hOk, rfl, rfl⟩))
      · rename_i hFail
        exact .inr (.inr (.inr ⟨hDesc, hData, hFail, rfl⟩))

/-- A run that begins with a handle and releases it with its last call. -/
theorem balanced {h : Nat} {uses : List OtaCall} {last : OtaCall}
    (hUses : ∀ call ∈ uses,
      Handles.Uses OtaCall.passed? OtaCall.opened? OtaCall.released? h call)
    (hLast : Handles.Closes OtaCall.passed? OtaCall.opened? OtaCall.released? h last) :
    let calls := .begin (some h) :: .getImgDesc (some h) :: uses ++ [last]
    Justified (Handles.Held OtaCall.passed? OtaCall.opened? OtaCall.released?) calls ∧
      calls.filterMap OtaCall.released? = calls.filterMap OtaCall.opened? := by
  have hAll := List.forall_mem_cons.mpr ⟨OtaCall.getImgDesc_uses h, hUses⟩
  exact ⟨Handles.session_justified (OtaCall.begin_opens h) hAll hLast (justified_nil _),
    Handles.session_balanced (OtaCall.begin_opens h) hAll hLast⟩

theorem otaProcess_start (o : OtaOutcomes) (otaInforLength : Nat) (otaMessageLink : List UInt8) :
    ∃ rest, (otaProcess o otaInforLength otaMessageLink).calls =
      .begin o.begin :: .getImgDesc o.begin :: rest := by
  obtain ⟨_, hEnd⟩ | ⟨_, _, hEnd⟩ | ⟨_, _, _, hCalls, _⟩ | ⟨_, _, _, hEnd⟩ :=
    otaProcess_cases o otaInforLength otaMessageLink
  · exact ⟨_, by rw [hEnd]; rfl⟩
  · exact ⟨_, by rw [hEnd]; rfl⟩
  · exact ⟨_, hCalls⟩
  · exact ⟨_, by rw [hEnd]; rfl⟩

/-- The calls of a run keep the discipline if and only if `esp_https_ota_begin` gives a handle and
a run that reaches `esp_https_ota_finish` succeeds. -/
theorem otaHandleLaw_iff (o : OtaOutcomes) (otaInforLength : Nat) (otaMessageLink : List UInt8) :
    OtaHandleLaw (otaProcess o otaInforLength otaMessageLink) ↔ o.Disciplined := by
  have hCases := otaProcess_cases o otaInforLength otaMessageLink
  unfold OtaOutcomes.Disciplined
  cases hBegin : o.begin with
  | none =>
    refine iff_of_false (fun hLaw => ?_) fun hSafe => hSafe.1 rfl
    obtain ⟨rest, hCalls⟩ := otaProcess_start o otaInforLength otaMessageLink
    rw [hBegin] at hCalls
    obtain ⟨h, hNull, _⟩ := hLaw.held [.begin none] (.getImgDesc none) rest hCalls none rfl
    cases hNull
  | some h =>
    have hDownload := downloadUses_uses h o.inProgress
    rw [hBegin] at hCases
    obtain ⟨hDesc, hEnd⟩ | ⟨hDesc, hData, hEnd⟩ | ⟨hDesc, hData, hOk, hCalls, hReturned⟩ |
      ⟨hDesc, hData, hFail, hEnd⟩ := hCases
    · rw [hEnd]
      obtain ⟨hHeld, hOnce⟩ := balanced (List.forall_mem_nil _) (OtaCall.abort_closes h)
      exact iff_of_true ⟨hHeld, hOnce, fun _ => rfl⟩ ⟨nofun, fun hOk => absurd hOk hDesc⟩
    · rw [hEnd]
      obtain ⟨hHeld, hOnce⟩ := balanced hDownload (OtaCall.abort_closes h)
      refine iff_of_true ⟨hHeld, hOnce, fun _ => rfl⟩ ⟨nofun, fun _ hTrue => ?_⟩
      rw [hData] at hTrue
      cases hTrue
    · obtain ⟨hHeld, hOnce⟩ := balanced hDownload (OtaCall.finish_closes h)
      refine iff_of_true ⟨?_, ?_, fun hBack => absurd hReturned hBack⟩ ⟨nofun, fun _ _ => hOk⟩
      · rw [hCalls]
        exact hHeld
      · rw [hCalls]
        exact hOnce
    · rw [hEnd]
      refine iff_of_false (fun hLaw => ?_) fun hSafe => hFail (hSafe.2 hDesc hData)
      exact Handles.not_held_twice (OtaCall.finish_closes h).released rfl
        (OtaCall.abort_closes h).passed hLaw.held

/-- The image is downloaded, and its check in `esp_https_ota_finish` fails. -/
def corruptImage : OtaOutcomes where
  begin := some 1
  imgDesc := .ok
  inProgress := 2
  perform := .ok
  completeDataReceived := true
  finish := .otaValidateFailed
  performed := nofun

theorem corrupt_image_released_twice : ¬ OtaHandleLaw (otaProcess corruptImage 0 []) :=
  fun hLaw => Handles.not_held_twice (OtaCall.finish_closes 1).released rfl
    (OtaCall.abort_closes 1).passed hLaw.held

/-! ## The plan task -/

def OtaOutcomes.succeeds (o : OtaOutcomes) : Bool :=
  o.imgDesc = .ok ∧ o.completeDataReceived = true ∧ o.perform = .ok ∧ o.finish = .ok

/-- The plan task sees of a run what `otaEnds` says. -/
theorem otaProcess_ends (o : OtaOutcomes) (otaInforLength : Nat) (otaMessageLink : List UInt8)
    {s : PlantControl} (hRunning : s.ota = .running) :
    let e := otaProcess o otaInforLength otaMessageLink
    let next := s.step (.otaEnds o.succeeds)
    next.isStartOta = e.isStartOta ∧ (next.ota = .rebooting ↔ e.returned = none) := by
  simp only [PlantControl.step, PlantControl.otaProcessEnds, if_pos hRunning]
  obtain ⟨hDesc, hEnd⟩ | ⟨_, hData, hEnd⟩ | ⟨hDesc, hData, hOk, _, hReturned⟩ |
    ⟨_, _, hFail, hEnd⟩ := otaProcess_cases o otaInforLength otaMessageLink
  · simp [OtaOutcomes.succeeds, hDesc, hEnd, otaEnd]
  · simp [OtaOutcomes.succeeds, hData, hEnd, otaEnd]
  · simp [OtaOutcomes.succeeds, otaProcess, hDesc, hData, hOk]
  · simp [OtaOutcomes.succeeds, hFail, hEnd, otaEnd]

end FcomGateway
