import FcomGateway.ModemCommand

/-! # Command mode and PPP mode

`esp_modem_start_ppp` and `esp_modem_stop_ppp` with all that they call. What `send_cmd` returns for
a command, and the `state` that it leaves, may depend on every command that was sent before. Delays
and the interrupts of the UART are left out, and so is the wait for `exit_sem`, which decides
nothing.
-/

namespace FcomGateway.Modem

open EventTrace

inductive ModemMode
  | command
  | ppp
  | transition
  deriving DecidableEq, Repr

/-- `ESP_MODEM_EVENT_PPP_START` and `ESP_MODEM_EVENT_PPP_STOP` -/
inductive PppEvent
  | start
  | stop
  deriving DecidableEq, Repr

structure CommandResult where
  ret : Bool
  state : ModemState

/-- What most of the commands ask. -/
def CommandResult.ok (r : CommandResult) : Bool := r.ret && decide (r.state = .success)

structure Dce where
  mode : ModemMode
  sent : List DceCommand
  posted : List PppEvent

inductive PppCall
  | startPpp
  | stopPpp
  deriving DecidableEq, Repr

namespace Dce

variable (modem : List DceCommand → CommandResult)

def sendCmd (d : Dce) (c : DceCommand) : CommandResult × Dce :=
  (modem (d.sent ++ [c]), { d with sent := d.sent ++ [c] })

/-- `sim800_set_working_mode` -/
def setWorkingMode (d : Dce) : ModemMode → Bool × Dce
  | .command =>
    let (escaped, d) := d.sendCmd modem .exitDataMode
    if escaped.ret = false then
      -- The modem may be in command mode already.
      let (synced, d) := d.sendCmd modem .resync
      if synced.ok then (true, { d with mode := .command }) else (false, d)
    else if escaped.state = .success then (true, { d with mode := .command })
    else (false, d)
  | .ppp =>
    let (dialed, d) := d.sendCmd modem .dial
    if dialed.ret = false then (false, d)
    else if dialed.state ≠ .success then
      let (resumed, d) := d.sendCmd modem .resume
      if resumed.ok then (true, { d with mode := .ppp }) else (false, d)
    else (true, { d with mode := .ppp })
  | .transition => (false, d)

/-- `esp_modem_dte_change_mode` -/
def changeMode (d : Dce) (newMode : ModemMode) : Bool × Dce :=
  if d.mode = newMode then (false, d)
  else if newMode = .transition then (true, { d with mode := .transition })
  else
    let changing : Dce := { d with mode := .transition }
    let (ok, switched) := changing.setWorkingMode modem newMode
    if ok then (true, switched) else (false, { switched with mode := d.mode })

def startPpp (d : Dce) : Bool × Dce :=
  let (defined, d) := d.sendCmd modem .definePdpContext
  if defined.ok then
    let (ok, d) := d.changeMode modem .ppp
    if ok then (true, { d with posted := d.posted ++ [.start] }) else (false, d)
  else (false, d)

def stopPpp (d : Dce) : Bool × Dce :=
  let (ok, d) := d.changeMode modem .command
  if ok then
    let stopped : Dce := { d with posted := d.posted ++ [.stop] }
    let (hungUp, d) := stopped.sendCmd modem .hangUp
    (hungUp.ok, d)
  else (false, d)

def call (d : Dce) : PppCall → Bool × Dce
  | .startPpp => d.startPpp modem
  | .stopPpp => d.stopPpp modem

def step (d : Dce) (c : PppCall) : Dce := (d.call modem c).2

/-! ## The mode follows the events -/

/-- The events that have led to a mode. There is no mode between the others. -/
inductive Alternates : ModemMode → List PppEvent → Prop
  | nil : Alternates .command []
  | start {posted : List PppEvent} (h : Alternates .command posted) :
    Alternates .ppp (posted ++ [.start])
  | stop {posted : List PppEvent} (h : Alternates .ppp posted) :
    Alternates .command (posted ++ [.stop])

/-- A switch takes place as a whole or not at all. -/
structure Switched (d : Dce) (newMode : ModemMode) (result : Bool × Dce) : Prop where
  posted : result.2.posted = d.posted
  done : result.1 = true → d.mode ≠ newMode ∧ result.2.mode = newMode
  restored : result.1 = false → result.2.mode = d.mode

theorem setWorkingMode_posted (d : Dce) (newMode : ModemMode) :
    (d.setWorkingMode modem newMode).2.posted = d.posted := by
  cases newMode with
  | command =>
    rw [setWorkingMode]
    dsimp only [sendCmd]
    split
    · split <;> rfl
    · split <;> rfl
  | ppp =>
    rw [setWorkingMode]
    dsimp only [sendCmd]
    split
    · rfl
    split
    · split <;> rfl
    · rfl
  | transition => rfl

variable {modem} in
theorem setWorkingMode_mode {d : Dce} {newMode : ModemMode}
    (h : (d.setWorkingMode modem newMode).1 = true) :
    (d.setWorkingMode modem newMode).2.mode = newMode := by
  cases newMode with
  | command =>
    rw [setWorkingMode] at h ⊢
    dsimp only [sendCmd] at h ⊢
    split at h
    · rename_i hSilent
      split at h
      · rename_i hOk
        rw [if_pos hSilent, if_pos hOk]
      · cases h
    · rename_i hAnswered
      split at h
      · rename_i hSuccess
        rw [if_neg hAnswered, if_pos hSuccess]
      · cases h
  | ppp =>
    rw [setWorkingMode] at h ⊢
    dsimp only [sendCmd] at h ⊢
    split at h
    · cases h
    · rename_i hAnswered
      rw [if_neg hAnswered]
      split at h
      · rename_i hFailed
        rw [if_pos hFailed]
        split at h
        · rename_i hOk
          rw [if_pos hOk]
        · cases h
      · rename_i hSuccess
        rw [if_neg hSuccess]
  | transition => cases h

theorem changeMode_switched (d : Dce) (newMode : ModemMode) :
    Switched d newMode (d.changeMode modem newMode) := by
  rw [changeMode]
  split
  · exact ⟨rfl, nofun, fun _ => rfl⟩
  · rename_i hNew
    split
    · rename_i hTransition
      exact ⟨rfl, fun _ => ⟨hNew, hTransition.symm⟩, nofun⟩
    · have hPosted := setWorkingMode_posted modem { d with mode := .transition } newMode
      dsimp only
      split
      · rename_i hOk
        exact ⟨hPosted, fun _ => ⟨hNew, setWorkingMode_mode hOk⟩, nofun⟩
      · exact ⟨hPosted, nofun, fun _ => rfl⟩

variable {modem}

theorem Alternates.startPpp {d : Dce} (h : Alternates d.mode d.posted) :
    Alternates (d.startPpp modem).2.mode (d.startPpp modem).2.posted := by
  have hSwitched := changeMode_switched modem (d.sendCmd modem .definePdpContext).2 .ppp
  rw [Dce.startPpp]
  dsimp only
  split
  · split
    · rename_i hOk
      obtain ⟨hOld, hNew⟩ := hSwitched.done hOk
      dsimp only
      rw [hNew, hSwitched.posted]
      change d.mode ≠ .ppp at hOld
      change Alternates .ppp (d.posted ++ _)
      generalize d.mode = mode at h hOld
      generalize d.posted = posted at h
      cases h with
      | nil => exact .start .nil
      | stop h => exact .start (.stop h)
      | start => exact absurd rfl hOld
    · rename_i hFailed
      dsimp only
      rw [hSwitched.restored (Bool.eq_false_iff.mpr hFailed), hSwitched.posted]
      exact h
  · exact h

theorem Alternates.stopPpp {d : Dce} (h : Alternates d.mode d.posted) :
    Alternates (d.stopPpp modem).2.mode (d.stopPpp modem).2.posted := by
  have hSwitched := changeMode_switched modem d .command
  rw [Dce.stopPpp]
  dsimp only
  split
  · rename_i hOk
    obtain ⟨hOld, hNew⟩ := hSwitched.done hOk
    dsimp only [sendCmd]
    rw [hNew, hSwitched.posted]
    generalize d.mode = mode at h hOld
    generalize d.posted = posted at h
    cases h with
    | start h => exact .stop (.start h)
    | nil => exact absurd rfl hOld
    | stop => exact absurd rfl hOld
  · rename_i hFailed
    dsimp only
    rw [hSwitched.restored (Bool.eq_false_iff.mpr hFailed), hSwitched.posted]
    exact h

/-- Whatever the modem answers, and in whatever order the two are called, the events alternate and
the mode is that of the last one. -/
theorem run_alternates {d : Dce} (h : Alternates d.mode d.posted) (calls : List PppCall) :
    Alternates (run (step modem) d calls).mode (run (step modem) d calls).posted := by
  refine run_invariant (I := fun d : Dce => Alternates d.mode d.posted) (fun d c hd => ?_) h calls
  cases c with
  | startPpp => exact hd.startPpp
  | stopPpp => exact hd.stopPpp

/-- As `sim800_init` leaves it. -/
def initial : Dce where
  mode := .command
  sent := []
  posted := []

theorem oneSession_alternates :
    Alternates (run (step fun _ => ⟨true, .success⟩) initial [.startPpp, .stopPpp]).mode
      (run (step fun _ => ⟨true, .success⟩) initial [.startPpp, .stopPpp]).posted :=
  run_alternates .nil [.startPpp, .stopPpp]

/-! ## A modem in data mode -/

/-- From now on no command but the escape sequence succeeds. -/
def AnswersEscapeOnly (modem : List DceCommand → CommandResult) (sent : List DceCommand) : Prop :=
  ∀ more c, DceCommand.exitDataMode ∉ more → c ≠ .exitDataMode →
    (modem (sent ++ more ++ [c])).ok = false

/-- The gateway takes the modem to be in command mode. -/
structure LockedOut (modem : List DceCommand → CommandResult) (d : Dce) : Prop where
  mode : d.mode = .command
  modem : AnswersEscapeOnly modem d.sent

theorem AnswersEscapeOnly.send {sent : List DceCommand} (h : AnswersEscapeOnly modem sent)
    {c : DceCommand} (hc : c ≠ .exitDataMode) : AnswersEscapeOnly modem (sent ++ [c]) := by
  intro more c' hMore hc'
  rw [List.append_assoc sent]
  refine h ([c] ++ more) c' (fun hMem => ?_) hc'
  obtain hHead | hRest := List.mem_cons.mp hMem
  · exact hc hHead.symm
  · exact hMore hRest

theorem AnswersEscapeOnly.silent {sent : List DceCommand} (h : AnswersEscapeOnly modem sent)
    {c : DceCommand} (hc : c ≠ .exitDataMode) : (modem (sent ++ [c])).ok = false := by
  have hNow := h [] c List.not_mem_nil hc
  rwa [List.append_nil] at hNow

/-- The definition of the PDP context fails, and the mode to leave is not the mode. -/
theorem LockedOut.call {d : Dce} (h : LockedOut modem d) (c : PppCall) :
    (d.call modem c).1 = false ∧ LockedOut modem (d.call modem c).2 ∧
      (d.call modem c).2.posted = d.posted ∧
      ∀ other ∈ (d.call modem c).2.sent, other ∈ d.sent ∨ other = .definePdpContext := by
  cases c with
  | startPpp =>
    have hOther : DceCommand.definePdpContext ≠ .exitDataMode := nofun
    have hSilent : (modem (d.sent ++ [.definePdpContext])).ok = false := h.modem.silent hOther
    have hCall : d.startPpp modem = (false, { d with sent := d.sent ++ [.definePdpContext] }) := by
      rw [Dce.startPpp]
      dsimp only [sendCmd]
      rw [if_neg (Bool.eq_false_iff.mp hSilent)]
    rw [Dce.call, hCall]
    refine ⟨rfl, ⟨h.mode, h.modem.send hOther⟩, rfl, fun c hc => ?_⟩
    rw [List.mem_append, List.mem_singleton] at hc
    exact hc
  | stopPpp =>
    have hCall : d.stopPpp modem = (false, d) := by
      rw [Dce.stopPpp, changeMode, if_pos h.mode]
      rfl
    rw [Dce.call, hCall]
    exact ⟨rfl, h, rfl, fun _ => .inl⟩

/-- When the modem is in data mode and the gateway takes it to be in command mode, every call fails
from then on, and the sequence that would bring the modem back is not sent again. -/
theorem locked_out {d : Dce} (h : LockedOut modem d) (calls : List PppCall) :
    (∀ c, ((run (step modem) d calls).call modem c).1 = false) ∧
      (run (step modem) d calls).mode = .command ∧
      (run (step modem) d calls).posted = d.posted ∧
      ∀ c ∈ (run (step modem) d calls).sent, c ∈ d.sent ∨ c = .definePdpContext := by
  have hRun : LockedOut modem (run (step modem) d calls) ∧
      (run (step modem) d calls).posted = d.posted ∧
      ∀ c ∈ (run (step modem) d calls).sent, c ∈ d.sent ∨ c = .definePdpContext := by
    refine run_invariant (I := fun t : Dce => LockedOut modem t ∧ t.posted = d.posted ∧
      ∀ c ∈ t.sent, c ∈ d.sent ∨ c = .definePdpContext) ?_ ⟨h, rfl, fun _ => .inl⟩ calls
    rintro t c ⟨hLocked, hPosted, hSent⟩
    obtain ⟨-, hNext, hSame, hNew⟩ := hLocked.call c
    refine ⟨hNext, hSame.trans hPosted, fun other hOther => ?_⟩
    obtain hOld | hDefine := hNew other hOther
    · exact hSent other hOld
    · exact .inr hDefine
  exact ⟨fun c => (hRun.1.call c).1, hRun.1.mode, hRun.2⟩

/-- A modem that dials, and answers too late. -/
def lateConnect (sent : List DceCommand) : CommandResult :=
  if sent.getLast? = some .exitDataMode then ⟨true, .success⟩
  else if .dial ∈ sent then ⟨false, .processing⟩
  else ⟨true, .success⟩

theorem lateConnect_lockedOut : LockedOut lateConnect (initial.step lateConnect .startPpp) := by
  refine ⟨rfl, fun more c hMore hc => ?_⟩
  have hDial : DceCommand.dial ∈ [.definePdpContext, .dial] ++ more ++ [c] :=
    List.mem_append_left _ (List.mem_append_left _ (by decide))
  change (lateConnect ([.definePdpContext, .dial] ++ more ++ [c])).ok = false
  rw [lateConnect, List.getLast?_concat, if_neg (fun hEq => hc (Option.some_inj.mp hEq)),
    if_pos hDial]
  rfl

theorem lateConnect_stays : LockedOut lateConnect (initial.step lateConnect .startPpp) ∧
    ∀ calls c, ((run (step lateConnect) (initial.step lateConnect .startPpp) calls).call
      lateConnect c).1 = false :=
  ⟨lateConnect_lockedOut, fun calls => (locked_out lateConnect_lockedOut calls).1⟩

end Dce

end FcomGateway.Modem
