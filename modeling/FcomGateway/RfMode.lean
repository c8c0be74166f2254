import FcomGateway.System

/-! # The mode commands of the server against the RF task

`rf_handle_ext_task` reads `ssStateMachine` on entering a case, reads `rf_config_mode` inside
the case, and writes the next `ssStateMachine` on leaving it; the jobs `add_sub_devices` and
`stop_add_sub_devices` write the same variables in between.
-/

namespace FcomGateway

open EventTrace

inductive Command
  | addSub
  | stopAddSub
  deriving DecidableEq, Repr

/-- Where the RF task stands: between two cases, or inside the case that it entered, with the
value of `rf_config_mode` if the case has read it. -/
inductive RfPhase
  | between
  | inside (entered : MasterRfEvent) (config : Option Bool)
  deriving DecidableEq, Repr

/-- The variables of the two writers, and what the run says of the last command: whether
`CONFIG_ADD_MODE` was entered since, and whether the RF task left the case it was in then. -/
structure RfMode where
  ssStateMachine : MasterRfEvent
  rfConfigMode : Bool
  status : GwStatus
  switchListenMode : Nat
  phase : RfPhase
  lastCommand : Option Command
  passed : Bool
  left : Bool

inductive RfAction
  | enter
  | readConfig
  | announce
  | leave (elapsed : Bool)
  | command (job : Command)
  deriving DecidableEq, Repr

namespace RfMode

def entered (s : RfMode) : Option MasterRfEvent :=
  match s.phase with
  | .between => none
  | .inside mode _ => some mode

def stay (s : RfMode) : RfMode := { s with phase := .between, left := true }

def next (mode : MasterRfEvent) (s : RfMode) : RfMode :=
  { s with ssStateMachine := mode, phase := .between, left := true }

/-- The write that ends a case. The two cases that test `rf_config_mode` end after the read. -/
def leaveCase (elapsed : Bool) (s : RfMode) : RfMode :=
  match s.phase with
  | .between => s
  | .inside .initCmd _ => s.next .findingSub
  | .inside .findingSub _ =>
    if elapsed then
      next (if 3 ≤ s.switchListenMode + 1 then .waitAddSub else .initCmd)
        { s with switchListenMode := s.switchListenMode + 1 }
    else s.stay
  | .inside .waitAddSub (some true) => next .configAddMode { s with status := .addSubDevice }
  | .inside .waitAddSub (some false) => s.next .configListenMode
  | .inside .configAddMode (some true) => s.next .registerSub
  | .inside .configAddMode (some false) => s.next .configListenMode
  | .inside .waitAddSub none | .inside .configAddMode none => s
  | .inside .configListenMode _ => s.next .listenSubEvent
  | .inside .registerSub _ | .inside .listenSubEvent _ | .inside .finishedAddSub _ => s.stay

def jsonParserGwJob (s : RfMode) : Command → RfMode
  | .addSub =>
    { s with
      rfConfigMode := true
      ssStateMachine := .waitAddSub
      lastCommand := some .addSub
      passed := false }
  | .stopAddSub =>
    { s with
      status := .normal
      rfConfigMode := false
      ssStateMachine := .configListenMode
      lastCommand := some .stopAddSub
      left := s.phase = .between }

def step (s : RfMode) : RfAction → RfMode
  | .enter =>
    match s.phase with
    | .between =>
      { s with
        phase := .inside s.ssStateMachine none
        passed := s.passed || s.ssStateMachine = .configAddMode }
    | .inside _ _ => s
  | .readConfig =>
    match s.phase with
    | .inside .waitAddSub none =>
      { s with phase := .inside .waitAddSub (some s.rfConfigMode) }
    | .inside .configAddMode none =>
      { s with phase := .inside .configAddMode (some s.rfConfigMode) }
    | _ => s
  | .announce =>
    match s.phase with
    | .inside .registerSub _ | .inside .listenSubEvent _ =>
      { s with ssStateMachine := .configListenMode }
    | _ => s
  | .leave elapsed => s.leaveCase elapsed
  | .command job => s.jsonParserGwJob job

/-- The last command is not overwritten. -/
def CommandLaw (s : RfMode) : Prop :=
  (s.lastCommand = some .addSub → s.ssStateMachine = .listenSubEvent → s.passed = true) ∧
  (s.lastCommand = some .stopAddSub → s.left = true →
    s.entered ≠ some .registerSub ∧ s.status = .normal)

instance (s : RfMode) : Decidable s.CommandLaw := by
  unfold CommandLaw
  infer_instance

/-- Whether the next write of the RF task comes from a test or a case that the job does not
reach any more. -/
def Overwrites (phase : RfPhase) : Command → Bool
  | .addSub =>
    match phase with
    | .inside .waitAddSub (some false) => true
    | .inside .configAddMode _ | .inside .configListenMode _ => true
    | _ => false
  | .stopAddSub =>
    match phase with
    | .inside .waitAddSub (some true) | .inside .configAddMode (some true) => true
    | _ => false

def handling (phase : RfPhase) : Bool :=
  match phase with
  | .inside .registerSub _ | .inside .listenSubEvent _ => true
  | _ => false

/-- No job arrives inside a case whose write ignores it, and no announcement is made in a pass
of the handler during which `add_sub_devices` arrived. -/
def CommandSafe (s : RfMode) : RfAction → Prop
  | .command job => Overwrites s.phase job = false
  | .announce =>
    handling s.phase = true → s.lastCommand = some .addSub → s.passed = true
  | _ => True

instance (s : RfMode) (a : RfAction) : Decidable (CommandSafe s a) := by
  cases a <;> unfold CommandSafe <;> infer_instance

/-! ## After `add_sub_devices` -/

def seeksAdd : MasterRfEvent → Bool
  | .initCmd | .findingSub | .waitAddSub | .configAddMode => true
  | _ => false

/-- An `add_sub_devices` job is pending: `CONFIG_ADD_MODE` lies ahead. -/
structure Seeking (s : RfMode) : Prop where
  config : s.rfConfigMode = true
  mode : seeksAdd s.ssStateMachine = true
  phase : Overwrites s.phase .addSub = false

theorem Seeking.leave {s : RfMode} (h : s.Seeking) (elapsed : Bool) :
    (s.leaveCase elapsed).Seeking := by
  obtain ⟨hConfig, hMode, hPhase⟩ := h
  cases hNow : s.phase with
  | between =>
    simp only [leaveCase, hNow]
    exact ⟨hConfig, hMode, hPhase⟩
  | inside mode config =>
    rw [hNow] at hPhase
    cases mode with
    | initCmd =>
      simp only [leaveCase, hNow]
      exact ⟨hConfig, rfl, rfl⟩
    | findingSub =>
      simp only [leaveCase, hNow]
      split
      · refine ⟨hConfig, ?_, rfl⟩
        simp only [next]
        split <;> rfl
      · exact ⟨hConfig, hMode, rfl⟩
    | waitAddSub =>
      rcases config with _ | _ | _
      · simp only [leaveCase, hNow]
        exact ⟨hConfig, hMode, hNow ▸ hPhase⟩
      · cases hPhase
      · simp only [leaveCase, hNow]
        exact ⟨hConfig, rfl, rfl⟩
    | configAddMode | configListenMode => cases hPhase
    | registerSub | listenSubEvent | finishedAddSub =>
      simp only [leaveCase, hNow]
      exact ⟨hConfig, hMode, rfl⟩

theorem Seeking.enter {s : RfMode} (h : s.Seeking) :
    (s.step .enter).passed = true ∨ (s.step .enter).Seeking := by
  obtain ⟨hConfig, hMode, hPhase⟩ := h
  cases hNow : s.phase with
  | inside mode config =>
    simp only [step, hNow]
    exact Or.inr ⟨hConfig, hMode, hPhase⟩
  | between =>
    simp only [step, hNow]
    cases hNext : s.ssStateMachine with
    | configAddMode => exact Or.inl (Bool.or_true _)
    | initCmd | findingSub | waitAddSub => exact Or.inr ⟨hConfig, rfl, rfl⟩
    | registerSub | configListenMode | listenSubEvent | finishedAddSub =>
      rw [hNext] at hMode
      cases hMode

theorem Seeking.readConfig {s : RfMode} (h : s.Seeking) : (s.step .readConfig).Seeking := by
  obtain ⟨hConfig, hMode, hPhase⟩ := h
  simp only [step]
  split
  · exact ⟨hConfig, hMode, by rw [hConfig]; rfl⟩
  · simp_all [Overwrites]
  · exact ⟨hConfig, hMode, hPhase⟩

theorem Seeking.start {s : RfMode} (h : Overwrites s.phase .addSub = false) :
    (s.jsonParserGwJob .addSub).Seeking := ⟨rfl, rfl, h⟩

/-! ## After `stop_add_sub_devices` -/

/-- A `stop_add_sub_devices` job was the last one: nothing leads to `REGISTER_SUB`. -/
structure Stopped (s : RfMode) : Prop where
  config : s.rfConfigMode = false
  notRegister : s.ssStateMachine ≠ .registerSub
  notAdd : s.ssStateMachine ≠ .configAddMode
  status : s.status = .normal
  phase : Overwrites s.phase .stopAddSub = false
  left : s.left = true → s.entered ≠ some .registerSub

theorem Stopped.leave {s : RfMode} (h : s.Stopped) (elapsed : Bool) :
    (s.leaveCase elapsed).Stopped := by
  obtain ⟨hConfig, hRegister, hAdd, hStatus, hPhase, hLeft⟩ := h
  cases hNow : s.phase with
  | between =>
    simp only [leaveCase, hNow]
    exact ⟨hConfig, hRegister, hAdd, hStatus, hPhase, hLeft⟩
  | inside mode config =>
    rw [hNow] at hPhase
    cases mode with
    | initCmd | configListenMode =>
      simp only [leaveCase, hNow]
      exact ⟨hConfig, nofun, nofun, hStatus, rfl, fun _ => nofun⟩
    | findingSub =>
      simp only [leaveCase, hNow]
      split
      · refine ⟨hConfig, ?_, ?_, hStatus, rfl, fun _ => nofun⟩ <;>
        · simp only [next]
          split <;> nofun
      · exact ⟨hConfig, hRegister, hAdd, hStatus, rfl, fun _ => nofun⟩
    | waitAddSub | configAddMode =>
      rcases config with _ | _ | _
      · simp only [leaveCase, hNow]
        exact ⟨hConfig, hRegister, hAdd, hStatus, hNow ▸ hPhase, hLeft⟩
      · simp only [leaveCase, hNow]
        exact ⟨hConfig, nofun, nofun, hStatus, rfl, fun _ => nofun⟩
      · cases hPhase
    | registerSub | listenSubEvent | finishedAddSub =>
      simp only [leaveCase, hNow]
      exact ⟨hConfig, hRegister, hAdd, hStatus, rfl, fun _ => nofun⟩

theorem Stopped.enter {s : RfMode} (h : s.Stopped) : (s.step .enter).Stopped := by
  obtain ⟨hConfig, hRegister, hAdd, hStatus, hPhase, hLeft⟩ := h
  simp only [step]
  split
  · refine ⟨hConfig, hRegister, hAdd, hStatus, ?_, fun _ hEntered => ?_⟩
    · cases hMode : s.ssStateMachine <;> rfl
    · exact hRegister (Option.some.inj hEntered)
  · exact ⟨hConfig, hRegister, hAdd, hStatus, hPhase, hLeft⟩

theorem Stopped.readConfig {s : RfMode} (h : s.Stopped) : (s.step .readConfig).Stopped := by
  obtain ⟨hConfig, hRegister, hAdd, hStatus, hPhase, hLeft⟩ := h
  simp only [step]
  split
  · exact ⟨hConfig, hRegister, hAdd, hStatus, by rw [hConfig]; rfl, fun _ => nofun⟩
  · exact ⟨hConfig, hRegister, hAdd, hStatus, by rw [hConfig]; rfl, fun _ => nofun⟩
  · exact ⟨hConfig, hRegister, hAdd, hStatus, hPhase, hLeft⟩

theorem Stopped.announce {s : RfMode} (h : s.Stopped) : (s.step .announce).Stopped := by
  obtain ⟨hConfig, hRegister, hAdd, hStatus, hPhase, hLeft⟩ := h
  simp only [step]
  split
  · exact ⟨hConfig, nofun, nofun, hStatus, hPhase, hLeft⟩
  · exact ⟨hConfig, nofun, nofun, hStatus, hPhase, hLeft⟩
  · exact ⟨hConfig, hRegister, hAdd, hStatus, hPhase, hLeft⟩

theorem Stopped.start {s : RfMode} (h : Overwrites s.phase .stopAddSub = false) :
    (s.jsonParserGwJob .stopAddSub).Stopped := by
  refine ⟨rfl, nofun, nofun, rfl, h, fun hLeft => ?_⟩
  have hBetween : s.phase = .between := of_decide_eq_true hLeft
  simp [entered, jsonParserGwJob, hBetween]

/-! ## Runs -/

structure Inv (s : RfMode) : Prop where
  adding : s.lastCommand = some .addSub → s.passed = false → s.Seeking
  stopped : s.lastCommand = some .stopAddSub → s.Stopped

theorem Inv.law {s : RfMode} (h : s.Inv) : s.CommandLaw := by
  refine ⟨fun hLast hListen => ?_, fun hLast hLeft => ?_⟩
  · by_contra hPassed
    have hMode := (h.adding hLast (Bool.eq_false_iff.mpr hPassed)).mode
    rw [hListen] at hMode
    cases hMode
  · exact ⟨(h.stopped hLast).left hLeft, (h.stopped hLast).status⟩

/-- The RF task does not touch the record of the last command, and it only ever sets `passed`. -/
theorem step_history (s : RfMode) {a : RfAction} (h : ∀ job, a ≠ .command job) :
    (s.step a).lastCommand = s.lastCommand ∧
    ((s.step a).passed = false → s.passed = false) := by
  cases a with
  | command job => exact absurd rfl (h job)
  | enter =>
    simp only [step]
    split
    · exact ⟨rfl, fun hFresh => (Bool.or_eq_false_iff.mp hFresh).1⟩
    · exact ⟨rfl, id⟩
  | readConfig | announce =>
    simp only [step]
    split <;> exact ⟨rfl, id⟩
  | leave elapsed =>
    simp only [step, leaveCase]
    repeat' split
    all_goals exact ⟨rfl, id⟩

theorem announce_idle {s : RfMode} (hIdle : handling s.phase = false) :
    s.step .announce = s := by
  simp only [step]
  split
  · simp_all [handling]
  · simp_all [handling]
  · rfl

theorem Inv.step {s : RfMode} {a : RfAction} (h : s.Inv) (hSafe : s.CommandSafe a) :
    (s.step a).Inv := by
  cases a with
  | command job =>
    cases job with
    | addSub => exact ⟨fun _ _ => Seeking.start hSafe, nofun⟩
    | stopAddSub => exact ⟨nofun, fun _ => Stopped.start hSafe⟩
  | enter =>
    obtain ⟨hLast, hFresh⟩ := s.step_history (a := .enter) nofun
    refine ⟨fun hAdd hNotYet => ?_, fun hStop => (h.stopped (hLast ▸ hStop)).enter⟩
    rcases (h.adding (hLast ▸ hAdd) (hFresh hNotYet)).enter with hPassed | hSeeking
    · rw [hPassed] at hNotYet
      cases hNotYet
    · exact hSeeking
  | readConfig =>
    obtain ⟨hLast, hFresh⟩ := s.step_history (a := .readConfig) nofun
    exact ⟨fun hAdd hNotYet => (h.adding (hLast ▸ hAdd) (hFresh hNotYet)).readConfig,
      fun hStop => (h.stopped (hLast ▸ hStop)).readConfig⟩
  | announce =>
    obtain ⟨hLast, hFresh⟩ := s.step_history (a := .announce) nofun
    refine ⟨fun hAdd hNotYet => ?_, fun hStop => (h.stopped (hLast ▸ hStop)).announce⟩
    have hIdle : handling s.phase = false := by
      rw [Bool.eq_false_iff]
      intro hHandling
      have hPassed := hSafe hHandling (hLast ▸ hAdd)
      rw [hFresh hNotYet] at hPassed
      cases hPassed
    have hSeeking := h.adding (hLast ▸ hAdd) (hFresh hNotYet)
    rw [announce_idle hIdle]
    exact hSeeking
  | leave elapsed =>
    obtain ⟨hLast, hFresh⟩ := s.step_history (a := .leave elapsed) nofun
    exact ⟨fun hAdd hNotYet => (h.adding (hLast ▸ hAdd) (hFresh hNotYet)).leave elapsed,
      fun hStop => (h.stopped (hLast ▸ hStop)).leave elapsed⟩

/-! ## The condition leaves out only steps that can break the law -/

theorem addSub_breaks {s : RfMode} (h : Overwrites s.phase .addSub = true) :
    ∃ rest, ¬ (run step s (.command .addSub :: rest)).CommandLaw := by
  obtain ⟨_, _, _, _, phase, _, _, _⟩ := s
  rcases phase with _ | ⟨mode, config⟩
  · cases h
  · cases mode with
    | configListenMode =>
      refine ⟨[.leave true], ?_⟩
      simp [step, leaveCase, jsonParserGwJob, next, CommandLaw]
    | waitAddSub =>
      rcases config with _ | _ | _
      · cases h
      · refine ⟨[.leave true, .enter, .leave true], ?_⟩
        simp [step, leaveCase, jsonParserGwJob, next, CommandLaw]
      · cases h
    | configAddMode =>
      -- an announcement in `REGISTER_SUB` ends the registration that the job did not start
      refine ⟨[.readConfig, .leave true, .enter, .announce, .leave true, .enter, .leave true], ?_⟩
      rcases config with _ | _ | _ <;>
        simp [step, leaveCase, jsonParserGwJob, next, stay, CommandLaw]
    | initCmd | findingSub | registerSub | listenSubEvent | finishedAddSub => cases h

theorem stopAddSub_breaks {s : RfMode} (h : Overwrites s.phase .stopAddSub = true) :
    ∃ rest, ¬ (run step s (.command .stopAddSub :: rest)).CommandLaw := by
  obtain ⟨_, _, _, _, phase, _, _, _⟩ := s
  rcases phase with _ | ⟨mode, config⟩
  · cases h
  · cases mode with
    | waitAddSub =>
      rcases config with _ | _ | _
      · cases h
      · cases h
      · refine ⟨[.leave true], ?_⟩
        simp [step, leaveCase, jsonParserGwJob, next, CommandLaw]
    | configAddMode =>
      rcases config with _ | _ | _
      · cases h
      · cases h
      · refine ⟨[.leave true, .enter], ?_⟩
        simp [step, leaveCase, jsonParserGwJob, next, CommandLaw, entered]
    | initCmd | findingSub | configListenMode | registerSub | listenSubEvent | finishedAddSub =>
      cases h

theorem announce_breaks {s : RfMode} (hHandling : handling s.phase = true)
    (hLast : s.lastCommand = some .addSub) (hFresh : s.passed = false) :
    ∃ rest, ¬ (run step s (.announce :: rest)).CommandLaw := by
  obtain ⟨_, _, _, _, phase, _, _, _⟩ := s
  dsimp only at hLast hFresh
  subst hLast hFresh
  refine ⟨[.leave true, .enter, .leave true], ?_⟩
  rcases phase with _ | ⟨mode, config⟩
  · cases hHandling
  · cases mode with
    | registerSub | listenSubEvent => simp [step, leaveCase, next, stay, CommandLaw]
    | initCmd | findingSub | waitAddSub | configAddMode | configListenMode | finishedAddSub =>
      cases hHandling

/-- After a step that is not safe the RF task alone can go on to break the law. -/
theorem commandSafe_necessary {s : RfMode} {a : RfAction} (h : ¬ s.CommandSafe a) :
    ∃ rest, ¬ Always step CommandLaw s (a :: rest) := by
  have breaks : ∃ rest, ¬ (run step s (a :: rest)).CommandLaw := by
    cases a with
    | enter | readConfig | leave elapsed => exact absurd trivial h
    | command job =>
      have hOver : Overwrites s.phase job = true := Bool.eq_true_of_not_eq_false h
      cases job with
      | addSub => exact addSub_breaks hOver
      | stopAddSub => exact stopAddSub_breaks hOver
    | announce =>
      simp only [CommandSafe, Classical.not_imp, Bool.not_eq_true] at h
      exact announce_breaks h.1 h.2.1 h.2.2
  obtain ⟨rest, hBroken⟩ := breaks
  exact ⟨rest, fun hAlways => hBroken hAlways.last⟩

end RfMode

/-! ## The gateway's own passes -/

def Gateway.rfMode (g : Gateway) : RfMode where
  ssStateMachine := g.ssStateMachine
  rfConfigMode := g.rfConfigMode
  status := g.gatewayData.status
  switchListenMode := g.switchListenMode
  phase := .between
  lastCommand := none
  passed := false
  left := false

theorem branch_rfMode (letter : Report) (add : Nat) (g : Gateway) :
    (letter.branch add g).rfMode = g.rfMode := by
  cases letter with
  | F | T =>
    simp only [Report.branch, reportF, reportT, updateRelayAlarmState_eq]
    rfl
  | L | E => rfl

theorem applyFrame_rfMode (g : Gateway) (frame : Frame) : (applyFrame g frame).rfMode = g.rfMode ∨
    (applyFrame g frame).rfMode = { g.rfMode with ssStateMachine := .configListenMode } := by
  cases frame with
  | request =>
    simp only [applyFrame, registerRequest]
    split
    · exact Or.inr rfl
    · exact Or.inl rfl
  | report letter add => exact Or.inl (branch_rfMode letter add g)

theorem frames_rfMode (list : List Frame) (g : Gateway) :
    (list.foldl applyFrame g).rfMode = g.rfMode ∨ (list.foldl applyFrame g).rfMode =
      { g.rfMode with ssStateMachine := .configListenMode } := by
  induction list generalizing g with
  | nil => exact Or.inl rfl
  | cons frame rest ih =>
    rw [List.foldl_cons]
    rcases ih (applyFrame g frame) with hRest | hRest <;>
      rcases applyFrame_rfMode g frame with hFrame | hFrame <;>
      simp [hRest, hFrame]

/-- The handler leaves the mode variables alone, except that an announcement sets
`CONFIG_LISTEN_MODE`. -/
theorem sensorDataHandler_rfMode (now : Int) (dtmp : List UInt8) (g : Gateway) :
    (sensorDataHandler now dtmp g).rfMode = g.rfMode ∨ (sensorDataHandler now dtmp g).rfMode =
      { g.rfMode with ssStateMachine := .configListenMode } := by
  cases dtmp with
  | nil => exact Or.inl rfl
  | cons b rest =>
    have hConfirm : ∀ g : Gateway, (confirmRegistration g).rfMode = g.rfMode := by
      intro g
      obtain ⟨_, _, _, _, hWrites⟩ := confirmRegistration_writes g
      rw [hWrites]
      rfl
    have hSend : ∀ g : Gateway, (sendFeedback now g).rfMode = g.rfMode := by
      intro g
      unfold sendFeedback
      split <;> rfl
    rw [sensorDataHandler_cons, hSend, hConfirm, scanBuffer_eq]
    exact frames_rfMode _ g

def pass (announcements : Nat) (elapsed : Bool) : List RfAction :=
  [.enter, .readConfig] ++ List.replicate announcements .announce ++ [.leave elapsed]

/-- The variables of the interleaved model are those of the gateway between two cases. -/
structure RfMode.Tracks (s : RfMode) (g : Gateway) : Prop where
  between : s.phase = .between
  same : { s with lastCommand := none, passed := false, left := false } = g.rfMode

/-- A pass that is not interrupted is a pass of the gateway's RF task. -/
theorem pass_tracks {s : RfMode} {g : Gateway} (h : s.Tracks g) (input : RfInput) :
    ∃ announcements, (run RfMode.step s (pass announcements input.elapsed)).Tracks
      (rfHandleExtTask input g) := by
  obtain ⟨hBetween, hSame⟩ := h
  obtain ⟨mode, config, status, count, phase, last, passed, left⟩ := s
  simp only [Gateway.rfMode, RfMode.mk.injEq] at hBetween hSame
  obtain ⟨rfl, rfl, rfl, rfl, rfl, _⟩ := hSame
  cases hMode : g.ssStateMachine with
  | initCmd | configListenMode | finishedAddSub =>
    refine ⟨0, rfl, ?_⟩
    simp [rfHandleExtTask, pass, RfMode.step, RfMode.leaveCase, RfMode.next, RfMode.stay,
      Gateway.rfMode, hMode]
  | findingSub =>
    refine ⟨0, ?_⟩
    cases hElapsed : input.elapsed <;>
    · simp only [rfHandleExtTask, hMode, hElapsed]
      exact ⟨rfl, by simp [pass, RfMode.step, RfMode.leaveCase, RfMode.next, RfMode.stay,
        Gateway.rfMode, hMode]⟩
  | waitAddSub =>
    refine ⟨0, ?_⟩
    cases hConfig : g.rfConfigMode <;>
    · simp only [rfHandleExtTask, hMode, hConfig]
      exact ⟨rfl, rfl⟩
  | configAddMode =>
    refine ⟨0, ?_⟩
    cases hConfig : g.rfConfigMode <;>
    · simp only [rfHandleExtTask, hMode, hConfig, xQueueSend]
      exact ⟨rfl, by simp [pass, RfMode.step, RfMode.leaveCase, RfMode.next, Gateway.rfMode]⟩
  | registerSub | listenSubEvent =>
    have handled : (rfHandleExtTask input g).rfMode = g.rfMode ∨
        (rfHandleExtTask input g).rfMode =
          { g.rfMode with ssStateMachine := .configListenMode } := by
      simp only [rfHandleExtTask, hMode]
      cases input.uart with
      | none => exact Or.inl rfl
      | some read => exact sensorDataHandler_rfMode read.1 read.2 g
    rcases handled with hSame | hAnnounced
    · refine ⟨0, rfl, ?_⟩
      rw [hSame]
      simp [pass, RfMode.step, RfMode.leaveCase, RfMode.stay, Gateway.rfMode, hMode]
    · refine ⟨1, rfl, ?_⟩
      rw [hAnnounced]
      simp [pass, RfMode.step, RfMode.leaveCase, RfMode.stay, Gateway.rfMode]

theorem command_tracks {s : RfMode} {g : Gateway} (h : s.Tracks g) (code : Fin 3 → UInt8) :
    (s.step (.command .addSub)).Tracks (addSubDevices code g) ∧
    (s.step (.command .stopAddSub)).Tracks (stopAddSubDevices g) := by
  obtain ⟨hBetween, hSame⟩ := h
  obtain ⟨mode, config, status, count, phase, last, passed, left⟩ := s
  simp only [Gateway.rfMode, RfMode.mk.injEq] at hBetween hSame
  obtain ⟨rfl, rfl, rfl, rfl, rfl, _⟩ := hSame
  exact ⟨⟨rfl, rfl⟩, ⟨rfl, rfl⟩⟩

/-! ## Runs from boot -/

theorem rfMode_inv (g : Gateway) : g.rfMode.Inv := ⟨nofun, nofun⟩

/-- In every interleaving whose jobs and announcements are safe no command is overwritten. -/
theorem commandLaw_always (saved : Option SensorData) (userReset : Bool) (clock : Nat → Int)
    {actions : List RfAction}
    (hSafe : Along RfMode.step RfMode.CommandSafe (boot saved userReset clock).rfMode actions) :
    Always RfMode.step RfMode.CommandLaw (boot saved userReset clock).rfMode actions :=
  always_of_invariant (fun _ _ => RfMode.Inv.step) (fun _ => RfMode.Inv.law) (rfMode_inv _) hSafe

def findingPasses : List RfAction := (List.replicate 6 (pass 0 true)).flatten

theorem commandLaw_add_and_stop : Always RfMode.step RfMode.CommandLaw
    (boot none false fun _ => 0).rfMode (findingPasses ++ [.enter, .command .addSub] ++
      [.readConfig, .leave true] ++ pass 0 true ++ [.enter, .command .stopAddSub, .announce] ++
      [.leave true] ++ pass 0 true) :=
  commandLaw_always none false (fun _ => 0) (by decide)

/-- `add_sub_devices` arrives while the RF task sets its sync code in `CONFIG_LISTEN_MODE`: the
task goes on to `LISTEN_SUB_EVENT`. -/
theorem addSub_overwritten : ¬ Always RfMode.step RfMode.CommandLaw
    (boot none false fun _ => 0).rfMode (findingPasses ++ pass 0 true ++
      [.enter, .command .addSub, .leave true]) := by
  decide

/-- `stop_add_sub_devices` arrives between the test of `WAIT_ADD_SUB` and its write. -/
example : ¬ Always RfMode.step RfMode.CommandLaw (boot none false fun _ => 0).rfMode
    (findingPasses ++ [.command .addSub, .enter, .readConfig, .command .stopAddSub] ++
      [.leave true]) := by
  decide

end FcomGateway
