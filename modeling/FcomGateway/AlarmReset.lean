import Mathlib.Data.List.TakeWhile
import FcomGateway.Table

/-! # The reset of the alarms

`GW_RESET_SS_STATE` is sent when MQTT connects for the first time. The send task then goes
through the table one detector at a time and waits between two of them, while the RF and the HMI
task go on writing reports. The loop looks at an entry when its turn comes.
-/

namespace FcomGateway

open EventTrace

/-- What a run has seen, oldest first: the event sent, the turns of the loop, and what the gateway
logs. -/
inductive Moment
  | posted
  | turn (c : Nat)
  | logged (entry : Observation)
  deriving DecidableEq, Repr

/-- `turn` is the variable `c` of the loop while the send task is in it. -/
structure AlarmReset where
  gateway : Gateway
  turn : Option Nat
  history : List Moment

/-- `rfRound` and `rfSends` are the parts of a call of `sensor_data_handler`: one round of its
loop over the buffer, and what follows the loop. -/
inductive ResetAction
  | task (event : Event)
  | rfRound (dtmp : List UInt8) (i : Nat)
  | rfSends (now : Int)
  | round

namespace AlarmReset

def start (g : Gateway) : AlarmReset where
  gateway := g
  turn := none
  history := []

def resetCount (g : Gateway) : Nat := g.dataProcess.count .gwResetSsState

def moments (g next : Gateway) : List Moment :=
  (if resetCount g < resetCount next then [.posted] else []) ++
    (next.log.drop g.log.length).map .logged

def move (next : Gateway) (s : AlarmReset) : AlarmReset :=
  { s with gateway := next, history := s.history ++ moments s.gateway next }

def send (s : AlarmReset) : AlarmReset :=
  if s.turn = none then
    match s.gateway.gatewayData.mqttStatus, s.gateway.dataProcess with
    | true, .gwResetSsState :: rest =>
      { s with gateway := { s.gateway with dataProcess := rest }, turn := some 1 }
    | _, _ => s.move (mqttSendTask s.gateway)
  else s

/-- One round of `for (c = 1; c <= sensor_data.maxDetector; c++)` with its `uint8_t` counter. -/
def round (s : AlarmReset) : AlarmReset :=
  match s.turn with
  | some c =>
    if c ≤ s.gateway.sensorData.maxDetector then
      move (resetDetector s.gateway c)
        { s with turn := some ((c + 1) % 256), history := s.history ++ [.turn c] }
    else { s with turn := none }
  | none => s

def step (s : AlarmReset) : ResetAction → AlarmReset
  | .task .mqttSend => s.send
  | .task event => s.move (FcomGateway.step s.gateway event)
  | .rfRound dtmp i => s.move (handleByte dtmp s.gateway i)
  | .rfSends now => s.move (sendFeedback now (confirmRegistration s.gateway))
  | .round => s.round

/-- A fire report of detector `d`, on the radio or at the wired inputs, came after `mark`. -/
def FiredAfter (mark : Moment) (d : Nat) (s : AlarmReset) : Prop :=
  ∃ e ∈ s.history.dropWhile fun moment => decide (moment ≠ mark),
    e = .logged (.report .F d) ∨ e = .logged (.wiredReport .F d)

instance (mark : Moment) (d : Nat) (s : AlarmReset) : Decidable (s.FiredAfter mark d) :=
  inferInstanceAs (Decidable (∃ e ∈ _, _))

/-- The step is one of the reset and takes detector `d` out of `ALARM_ST`. -/
def Clears (s : AlarmReset) (a : ResetAction) (d : Nat) : Prop :=
  a = .round ∧ s.gateway.sensorData.dtorSensorState d = .alarmSt ∧
    (s.step a).gateway.sensorData.dtorSensorState d = .normalSt

/-- No detector that reported fire after its mark is taken out of `ALARM_ST` by the reset. -/
def SparesAfter (mark : Nat → Moment) (s : AlarmReset) (a : ResetAction) : Prop :=
  ∀ d, s.FiredAfter (mark d) d → ¬ s.Clears a d

/-! ## The parts make up the whole -/

theorem run_rfRounds (dtmp : List UInt8) (positions : List Nat) (s : AlarmReset) :
    (run step s (positions.map (.rfRound dtmp))).gateway =
      positions.foldl (handleByte dtmp) s.gateway := by
  induction positions generalizing s with
  | nil => rfl
  | cons i rest ih => exact ih (s.move (handleByte dtmp s.gateway i))

/-- The rounds over a buffer that begins with a brace and the sends behind them are a call of the
handler. -/
theorem run_sensorDataHandler (now : Int) {dtmp : List UInt8} (hBrace : byteAt dtmp 0 = 0x7B)
    (s : AlarmReset) :
    (run step s ((List.range dtmp.length).map (.rfRound dtmp) ++ [.rfSends now])).gateway =
      sensorDataHandler now dtmp s.gateway := by
  have hLength : 0 < dtmp.length := by
    cases dtmp with
    | nil => cases hBrace
    | cons b rest => exact Nat.succ_pos _
  rw [sensorDataHandler, if_pos hLength, scanBuffer, if_pos hBrace, ← run_rfRounds, run_append]
  rfl

theorem resetDetector_maxDetector (g : Gateway) (c : Nat) :
    (resetDetector g c).sensorData.maxDetector = g.sensorData.maxDetector := by
  unfold resetDetector
  split <;> rfl

/-- A loop that is left alone is the reset of the gateway model. -/
theorem run_rounds {n c : Nat} {s : AlarmReset} (hTurn : s.turn = some c)
    (hMax : s.gateway.sensorData.maxDetector + 1 = c + n)
    (hSmall : s.gateway.sensorData.maxDetector ≤ MAX_DECTECTOR) :
    (run step s (List.replicate (n + 1) .round)).gateway =
        (List.range' c n).foldl resetDetector s.gateway ∧
      (run step s (List.replicate (n + 1) .round)).turn = none := by
  induction n generalizing c s with
  | zero =>
    have hDone : ¬ c ≤ s.gateway.sensorData.maxDetector := by omega
    simp [step, round, hTurn, hDone]
  | succ n ih =>
    have hGoes : c ≤ s.gateway.sensorData.maxDetector := by omega
    have hNext : s.round = move (resetDetector s.gateway c)
        { s with turn := some (c + 1), history := s.history ++ [.turn c] } := by
      have hWrap : (c + 1) % 256 = c + 1 := by
        unfold MAX_DECTECTOR at hSmall
        omega
      rw [round, hTurn]
      dsimp only
      rw [if_pos hGoes, hWrap]
    have hKeep := resetDetector_maxDetector s.gateway c
    rw [List.replicate_succ, run_cons, step, hNext, List.range'_succ, List.foldl_cons]
    exact ih rfl (by rw [move, hKeep]; omega) (by rw [move, hKeep]; exact hSmall)

/-! ## Every detector has one turn at most -/

abbrev MaxInv : Gateway → Prop := TableInv fun t => t.maxDetector ≤ MAX_DECTECTOR

theorem maxDetector_step {watched : List Dtor} {d d' : SensorData} (h : TableStep watched d d')
    (hBound : d.maxDetector ≤ MAX_DECTECTOR) : d'.maxDetector ≤ MAX_DECTECTOR := by
  cases h with
  | prepare c hFree | wiredSlot c hFree =>
    change (if d.maxDetector < c then c else d.maxDetector) ≤ MAX_DECTECTOR
    split
    · exact (freeSlot_eq_some.mp hFree).1.2
    · exact hBound
  | _ => exact hBound

theorem MaxInv.handleByte {g : Gateway} (h : MaxInv g) (dtmp : List UInt8) (i : Nat) :
    MaxInv (handleByte dtmp g i) := by
  rw [handleByte_eq]
  cases hFrame : frameAt dtmp i with
  | none => exact h
  | some frame =>
    cases frame with
    | request => exact h.registerRequest (fun _ _ => @maxDetector_step [] _ _)
    | report letter add =>
      exact h.branch (fun _ _ => @maxDetector_step [] _ _) letter
        (frameAt_add_bounds hFrame)

/-- There is one reset in a run: it has not been sent, or it is in the queue, or the send task is
in its loop or has been, and then the detectors up to the counter have had their turn. -/
structure Inv (s : AlarmReset) : Prop where
  bound : MaxInv s.gateway
  once : resetCount s.gateway + s.turn.toList.length ≤ s.gateway.isMqttFirstBoot.toNat
  past : ∀ d, .turn d ∈ s.history →
    s.gateway.isMqttFirstBoot = true ∧ resetCount s.gateway = 0 ∧ ∀ c ∈ s.turn, d < c

theorem turn_mem_moments {d : Nat} {g next : Gateway} : .turn d ∉ moments g next := by
  intro hMem
  rcases List.mem_append.mp hMem with hPosted | hLogged
  · split at hPosted <;> simp at hPosted
  · obtain ⟨_, _, hEntry⟩ := List.mem_map.mp hLogged
    cases hEntry

theorem turn_mem_move {d : Nat} {s : AlarmReset} {next : Gateway} :
    .turn d ∈ (s.move next).history ↔ .turn d ∈ s.history :=
  List.mem_append.trans (or_iff_left turn_mem_moments)

theorem Inv.move {s : AlarmReset} (hInv : s.Inv) {next : Gateway} (hBound : MaxInv next)
    (hCount : resetCount next ≤ resetCount s.gateway)
    (hFirst : next.isMqttFirstBoot = s.gateway.isMqttFirstBoot) : (s.move next).Inv := by
  refine ⟨hBound, ?_, fun d hMem => ?_⟩
  · have hOnce := hInv.once
    change resetCount next + s.turn.toList.length ≤ next.isMqttFirstBoot.toNat
    rw [hFirst]
    omega
  · obtain ⟨hConnected, hNone, hBefore⟩ := hInv.past d (turn_mem_move.mp hMem)
    exact ⟨hFirst.trans hConnected, Nat.le_zero.mp (hNone ▸ hCount), hBefore⟩

theorem Inv.posts {s : AlarmReset} (hInv : s.Inv) {next : Gateway} (hBound : MaxInv next)
    {events : List DataEvent} (hPosts : Posts events s.gateway next)
    (hNever : .gwResetSsState ∉ events) : (s.move next).Inv :=
  hInv.move hBound (hPosts.count_eq hNever).le hPosts.firstBoot

theorem Inv.mqttConnected {s : AlarmReset} (hInv : s.Inv) :
    (s.move (FcomGateway.mqttConnected s.gateway)).Inv := by
  have hBound : MaxInv (FcomGateway.mqttConnected s.gateway) :=
    hInv.bound.step (fun _ _ => maxDetector_step) .mqttConnected
  cases hFirst : s.gateway.isMqttFirstBoot with
  | true =>
    have hNext : FcomGateway.mqttConnected s.gateway = { s.gateway with
        gatewayData := { s.gateway.gatewayData with mqttStatus := true } } := by
      rw [FcomGateway.mqttConnected]
      simp [hFirst]
    rw [hNext] at hBound ⊢
    exact hInv.move hBound le_rfl rfl
  | false =>
    have hOnce := hInv.once
    rw [hFirst, Bool.toNat_false] at hOnce
    have hFresh : ∀ d, .turn d ∉ s.history := by
      intro d hMem
      rw [(hInv.past d hMem).1] at hFirst
      cases hFirst
    have hQuiet : (enqueue .gwFeedbackFlag s.gateway.dataProcess).count .gwResetSsState =
        resetCount s.gateway :=
      count_enqueue_of_ne .gwFeedbackFlag .gwResetSsState nofun _
    have hSent : resetCount (FcomGateway.mqttConnected s.gateway) ≤ resetCount s.gateway + 1 := by
      rw [← hQuiet]
      unfold FcomGateway.mqttConnected resetCount
      simp only [hFirst, if_true]
      split
      · exact count_enqueue_le .gwResetSsState _
      · exact Nat.le_succ _
    have hNext : (FcomGateway.mqttConnected s.gateway).isMqttFirstBoot = true := by
      rw [FcomGateway.mqttConnected]
      simp [hFirst]
    refine ⟨hBound, ?_, fun d hMem => absurd (turn_mem_move.mp hMem) (hFresh d)⟩
    change resetCount (FcomGateway.mqttConnected s.gateway) + s.turn.toList.length ≤
      (FcomGateway.mqttConnected s.gateway).isMqttFirstBoot.toNat
    rw [hNext, Bool.toNat_true]
    omega

/-- The send task takes the one reset, or handles another event as the gateway model does. -/
theorem send_cases (s : AlarmReset) :
    s.send = s ∨
    (s.turn = none ∧ ∃ rest, s.gateway.dataProcess = .gwResetSsState :: rest ∧
      s.send = { s with gateway := { s.gateway with dataProcess := rest }, turn := some 1 }) ∨
    s.send = s.move (mqttSendTask s.gateway) := by
  unfold AlarmReset.send
  split
  · rename_i hIdle
    split
    · rename_i rest _ hQueue
      exact Or.inr (Or.inl ⟨hIdle, rest, hQueue, rfl⟩)
    · exact Or.inr (Or.inr rfl)
  · exact Or.inl rfl

theorem Inv.send {s : AlarmReset} (hInv : s.Inv) : s.send.Inv := by
  rcases send_cases s with hSame | ⟨hIdle, rest, hQueue, hTake⟩ | hMove
  · rw [hSame]
    exact hInv
  · have hCount : resetCount s.gateway = rest.count .gwResetSsState + 1 := by
      rw [resetCount, hQueue, List.count_cons_self]
    have hOnce := hInv.once
    rw [hIdle, hCount] at hOnce
    rw [hTake]
    refine ⟨hInv.bound.of_eq rfl rfl, ?_, fun d hMem => ?_⟩
    · exact hOnce
    · have hNone := (hInv.past d hMem).2.1
      omega
  · rw [hMove]
    refine hInv.move (hInv.bound.mqttSendTask (fun _ _ => @maxDetector_step [] _ _)) ?_ ?_
    · rcases mqttSendTask_cases s.gateway with hSame | ⟨event, rest, hQueue, hHandle⟩
      · rw [hSame]
      · rw [resetCount, hHandle, handleDataEvent_dataProcess, resetCount, hQueue]
        exact (List.sublist_cons_self event rest).count_le _
    · rcases mqttSendTask_cases s.gateway with hSame | ⟨event, rest, hQueue, hHandle⟩
      · rw [hSame]
      · obtain ⟨_, _, _, _, hSends, _⟩ :=
          handleDataEvent_sends event { s.gateway with dataProcess := rest }
        rw [hHandle, hSends]

theorem Inv.round {s : AlarmReset} (hInv : s.Inv) : s.round.Inv := by
  unfold AlarmReset.round
  split
  · rename_i c hTurn
    have hOnce := hInv.once
    rw [hTurn] at hOnce
    obtain ⟨hFirst, hNone⟩ : s.gateway.isMqttFirstBoot = true ∧ resetCount s.gateway = 0 := by
      cases hFirst : s.gateway.isMqttFirstBoot with
      | true => exact ⟨rfl, by simpa [hFirst] using hOnce⟩
      | false => simp [hFirst] at hOnce
    split
    · rename_i hGoes
      have hSmall : c ≤ 50 := hGoes.trans hInv.bound.table
      have hWrap : (c + 1) % 256 = c + 1 := by omega
      rw [hWrap]
      have hLooping : Inv { s with turn := some (c + 1), history := s.history ++ [.turn c] } := by
        refine ⟨hInv.bound, hOnce, fun d hMem => ⟨hFirst, hNone, ?_⟩⟩
        rintro _ ⟨⟩
        rcases List.mem_append.mp hMem with hOld | hNew
        · exact Nat.lt_succ_of_lt ((hInv.past d hOld).2.2 c hTurn)
        · cases List.mem_singleton.mp hNew
          exact Nat.lt_succ_self c
      obtain ⟨_, _, _, _, hSends, _⟩ := resetDetector_sends s.gateway c
      refine hLooping.move ?_ ?_ ?_
      · unfold resetDetector
        split
        · exact TableInv.save (hInv.bound.of_step (fun _ _ => @maxDetector_step [] _ _)
            (.reset _ c ‹_ ∧ _›.1 ‹_ ∧ _›.2) rfl)
        · exact hInv.bound
      · rw [hSends]
        exact le_rfl
      · rw [hSends]
    · refine ⟨hInv.bound, ?_, fun d hMem => ⟨hFirst, hNone, nofun⟩⟩
      rw [hNone]
      exact Nat.zero_le _
  · exact hInv

theorem Inv.step {s : AlarmReset} (hInv : s.Inv) (a : ResetAction) : (s.step a).Inv := by
  cases a with
  | task event =>
    by_cases hSend : event = .mqttSend
    · rw [hSend]
      exact hInv.send
    by_cases hConnected : event = .mqttConnected
    · rw [hConnected]
      exact hInv.mqttConnected
    have hMove : s.step (.task event) = s.move (FcomGateway.step s.gateway event) := by
      cases event with
      | mqttSend => exact absurd rfl hSend
      | _ => rfl
    rw [hMove]
    refine hInv.posts (hInv.bound.step (fun _ _ => maxDetector_step) event)
      (step_posts hConnected hSend s.gateway) ?_
    cases event with
    | mqttConnected => exact absurd rfl hConnected
    | _ => simp [Event.posts]
  | rfRound dtmp i =>
    have hPosts : Posts [] s.gateway (handleByte dtmp s.gateway i) := by
      rw [handleByte_eq]
      cases frameAt dtmp i with
      | none => exact Posts.of_eq rfl rfl
      | some frame =>
        obtain ⟨_, _, _, _, _, _, _, _, hScan⟩ := applyFrame_scans s.gateway frame
        dsimp only
        rw [hScan]
        exact Posts.of_eq rfl rfl
    exact hInv.posts (hInv.bound.handleByte dtmp i) hPosts List.not_mem_nil
  | rfSends now =>
    have hConfirm : Posts [.ssRegisterServer, .ssFeedbackFlag] s.gateway
        (confirmRegistration s.gateway) :=
      Posts.confirmRegistration (by decide) s.gateway
    refine hInv.posts ?_ (hConfirm.trans (Posts.sendFeedback (by decide) now _)) (by decide)
    have hConfirmed : MaxInv (confirmRegistration s.gateway) :=
      hInv.bound.confirmRegistration fun _ _ => @maxDetector_step [] _ _
    exact hConfirmed.sendFeedback now
  | round => exact hInv.round

/-! ## The law -/

theorem clears_turn {s : AlarmReset} {a : ResetAction} {d : Nat} (h : s.Clears a d) :
    s.turn = some d ∧ s.gateway.sensorData.deviceActivated d = 1 := by
  obtain ⟨rfl, hAlarm, hNormal⟩ := h
  revert hNormal
  rw [step, round]
  split
  · rename_i c hTurn
    split
    · change (resetDetector s.gateway c).sensorData.dtorSensorState d = .normalSt → _
      unfold resetDetector
      split
      · rename_i hReset
        by_cases hSame : d = c
        · exact fun _ => ⟨by rw [hSame, hTurn], by rw [hSame]; exact hReset.1⟩
        · intro hNormal
          simp [publishSensorData, publish, flashSaveSensorData, hSame, hAlarm] at hNormal
      · intro hNormal
        rw [hAlarm] at hNormal
        cases hNormal
    · intro hNormal
      rw [hAlarm] at hNormal
      cases hNormal
  · intro hNormal
    rw [hAlarm] at hNormal
    cases hNormal

/-- A registered detector that is in alarm at its turn is cleared, whenever it reported. -/
theorem clears_of_turn {s : AlarmReset} {d : Nat} (hTurn : s.turn = some d)
    (hMax : d ≤ s.gateway.sensorData.maxDetector)
    (hActive : s.gateway.sensorData.deviceActivated d = 1)
    (hAlarm : s.gateway.sensorData.dtorSensorState d = .alarmSt) : s.Clears .round d := by
  refine ⟨rfl, hAlarm, ?_⟩
  rw [step, round, hTurn]
  dsimp only
  rw [if_pos hMax, move, resetDetector, if_pos ⟨hActive, hAlarm⟩]
  exact Function.update_self ..

theorem turn_mem_of_firedAfter {s : AlarmReset} {mark : Moment} {d : Nat}
    (h : s.FiredAfter mark d) : mark ∈ s.history := by
  obtain ⟨e, hMem, _⟩ := h
  by_contra hNever
  have hEmpty : (s.history.dropWhile fun moment => decide (moment ≠ mark)) = [] := by
    refine List.dropWhile_eq_nil_iff.mpr fun moment hMoment => decide_eq_true ?_
    rintro rfl
    exact hNever hMoment
  rw [hEmpty] at hMem
  cases hMem

theorem Inv.sparesAfter_turn {s : AlarmReset} (hInv : s.Inv) (a : ResetAction) :
    s.SparesAfter .turn a := by
  intro d hFired hClears
  have hBefore := (hInv.past d (turn_mem_of_firedAfter hFired)).2.2
  exact lt_irrefl d (hBefore d (clears_turn hClears).1)

theorem start_inv {g : Gateway} (hBound : MaxInv g) (hQueue : g.dataProcess = []) :
    (start g).Inv := by
  refine ⟨hBound, ?_, nofun⟩
  rw [start, resetCount, hQueue]
  exact Nat.zero_le _

end AlarmReset

/-! ## Runs from boot -/

theorem boot_maxInv {saved : Option SensorData}
    (hSaved : ∀ t, saved = some t → PreviouslySaved t) (userReset : Bool) (clock : Nat → Int) :
    AlarmReset.MaxInv (boot saved userReset clock) :=
  boot_tableInv (Nat.zero_le _)
    (fun t ht => (hSaved t ht).inv (Nat.zero_le _) fun _ _ _ => AlarmReset.maxDetector_step)
    userReset clock

/-- A fire report that comes after the turn of its detector outlives the reset. -/
theorem reset_spares_after_turn {saved : Option SensorData}
    (hSaved : ∀ t, saved = some t → PreviouslySaved t) (userReset : Bool) (clock : Nat → Int)
    (actions : List ResetAction) :
    Along AlarmReset.step (AlarmReset.SparesAfter .turn)
      (.start (boot saved userReset clock)) actions :=
  along_of_always (I := AlarmReset.Inv) (J := AlarmReset.Inv) (fun _ a hInv => hInv.step a)
    (fun _ a hInv _ => hInv.sparesAfter_turn a)
    (AlarmReset.start_inv (boot_maxInv hSaved userReset clock) rfl)
    (always_of_kept (fun _ a hInv => hInv.step a)
      (AlarmReset.start_inv (boot_maxInv hSaved userReset clock) rfl) actions)

/-- MQTT connects, detector 1 registers with a fire report, and the reset has its turn: the second
fire report comes after it. -/
theorem reset_spares_second_fire :
    Along AlarmReset.step (AlarmReset.SparesAfter .turn) (.start (boot none true fun _ => 0))
      (.task .mqttConnected :: startListening.map .task ++
        [.task (uartData requestBytes), .task (.rf ⟨false, none⟩),
          .task (uartData (Report.F.bytes 1)), .task .mqttSend, .task .mqttSend, .round,
          .task (uartData (Report.F.bytes 1)), .round]) :=
  reset_spares_after_turn (by simp) true (fun _ => 0) _

/-- The fire report comes after the event was sent, and the turn of its detector after the
report. -/
theorem reset_clears_new_fire :
    ¬ Along AlarmReset.step (AlarmReset.SparesAfter fun _ => .posted)
      (.start (boot none true fun _ => 0))
      ((.task .mqttConnected :: startListening.map .task ++
        [.task (uartData requestBytes), .task (.rf ⟨false, none⟩),
          .task (uartData (Report.F.bytes 1)), .task .mqttSend, .task .mqttSend]) ++ [.round]) := by
  intro h
  exact h.last 1 (by decide) ⟨rfl, by decide, by decide⟩

end FcomGateway
