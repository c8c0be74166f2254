import FcomGateway.Library.Ledger
import FcomGateway.PlantControl

/-! # Switching the SIM off

`network_switch_task` counts the checks that find MQTT disconnected, every ten seconds, and
switches the SIM off when there are three and Wi-Fi has an address too. The handlers of the network
events run between any two of its steps. The log has the checks, the addresses of the modem and
the calls of `sim_denit` for a SIM without internet.
-/

namespace FcomGateway

open EventTrace Ledger

/-- `gw_connect_info_t`, as far as the task and the handlers set it. -/
inductive GwConnectInfo
  | wifi
  | sim3G
  deriving DecidableEq, Repr

inductive NetworkObservation
  | check (mqttStatus : Bool) (isStartOta : OtaState)
  | gotIp
  | simOff
  | restarted
  deriving DecidableEq, Repr

/-- Where `network_switch_task` is: before and in the first `main_sim_init`, in the delay of ten
seconds, in the delay of the Wi-Fi branch, before the branch that initialises the SIM again and at
its calls, before the branch that switches the SIM off and in its `sim_denit`, before the last
test. -/
inductive SwitchPoint
  | starting
  | startWait
  | waiting
  | wifiRestart
  | reinitTest
  | reinitDenit
  | reinitStart
  | reinitWait
  | switchTest
  | switchingOff
  | restartTest
  deriving DecidableEq, Repr

/-- `simHandlers` says whether `on_ip_event` is registered for the modem. -/
structure NetworkSwitch where
  mqttCount : Nat
  mqttStatus : Bool
  wifiStatus : Bool
  modemStatus : Bool
  modemIsDisconnected : Bool
  isStartOta : OtaState
  connectInfo : GwConnectInfo
  wifiSsidExist : Bool
  sRetryNum : Nat
  simHandlers : Bool
  point : SwitchPoint
  log : List NetworkObservation
  deriving DecidableEq, Repr

/-- `task` is the next step of the task; it brings whether the Wi-Fi interface is up and whether
the heap is nearly used up. -/
inductive NetworkEvent
  | task (netifUp lowHeap : Bool)
  | pppGotIp
  | pppLostIp
  | staGotIp
  | staDisconnected
  | wifiInit (wifiStatus wifiSsidExist : Bool)
  | mqttConnected
  | mqttDisconnected
  | ota (isStartOta : OtaState)
  | reset
  deriving DecidableEq, Repr

namespace NetworkSwitch

def boot (log : List NetworkObservation) : NetworkSwitch where
  mqttCount := 0
  mqttStatus := false
  wifiStatus := false
  modemStatus := false
  modemIsDisconnected := false
  isStartOta := .otaPending
  connectInfo := .wifi
  wifiSsidExist := false
  sRetryNum := 0
  simHandlers := false
  point := .starting
  log := log

def record (e : NetworkObservation) (s : NetworkSwitch) : NetworkSwitch :=
  { s with log := s.log ++ [e] }

def espRestart (s : NetworkSwitch) : NetworkSwitch := boot (s.log ++ [.restarted])

/-! ## The task -/

def check (netifUp : Bool) (s : NetworkSwitch) : NetworkSwitch :=
  let s := s.record (.check s.mqttStatus s.isStartOta)
  if s.mqttStatus = false ∧ s.isStartOta = .otaPending then
    { s with mqttCount := s.mqttCount + 1, point := .reinitTest }
  else if netifUp = false ∧ s.wifiSsidExist = true ∧ s.sRetryNum = 0 then
    { s with mqttCount := 0, point := .wifiRestart }
  else { s with mqttCount := 0, point := .reinitTest }

def reinitTest (s : NetworkSwitch) : NetworkSwitch :=
  if s.modemIsDisconnected = true ∧ (s.mqttStatus = true ∨ s.mqttCount > 6) then
    { s with modemIsDisconnected := false, point := .reinitDenit }
  else { s with point := .switchTest }

def SwitchesOff (s : NetworkSwitch) : Prop :=
  s.mqttCount ≥ 3 ∧ s.modemStatus = true ∧ s.wifiStatus = true

instance (s : NetworkSwitch) : Decidable s.SwitchesOff := inferInstanceAs (Decidable (_ ∧ _))

def switchTest (s : NetworkSwitch) : NetworkSwitch :=
  if s.SwitchesOff then { (s.record .simOff) with point := .switchingOff }
  else { s with point := .restartTest }

def restartTest (lowHeap : Bool) (s : NetworkSwitch) : NetworkSwitch :=
  if s.mqttCount ≥ 60 ∨ lowHeap = true then s.espRestart else { s with point := .waiting }

/-- `sim_denit` takes the handlers away at its end, `main_sim_init` sets them at its beginning. -/
def task (netifUp lowHeap : Bool) (s : NetworkSwitch) : NetworkSwitch :=
  match s.point with
  | .starting => { s with simHandlers := true, point := .startWait }
  | .startWait => { s with point := .waiting }
  | .waiting => s.check netifUp
  | .wifiRestart => { s with point := .reinitTest }
  | .reinitTest => s.reinitTest
  | .reinitDenit => { s with simHandlers := false, point := .reinitStart }
  | .reinitStart => { s with simHandlers := true, point := .reinitWait }
  | .reinitWait => { s with point := .switchTest }
  | .switchTest => s.switchTest
  | .switchingOff =>
    { s with
      simHandlers := false
      modemStatus := false
      connectInfo := .wifi
      modemIsDisconnected := false
      point := .restartTest }
  | .restartTest => s.restartTest lowHeap

/-! ## The handlers -/

/-- `on_ip_event` -/
def pppGotIp (s : NetworkSwitch) : NetworkSwitch :=
  if s.simHandlers = true then
    { (s.record .gotIp) with
      modemStatus := true
      modemIsDisconnected := false
      connectInfo := if s.isStartOta = .otaPending then .sim3G else s.connectInfo }
  else s

def pppLostIp (s : NetworkSwitch) : NetworkSwitch :=
  if s.simHandlers = true then
    { s with modemStatus := false, modemIsDisconnected := true, connectInfo := .wifi }
  else s

def step (s : NetworkSwitch) : NetworkEvent → NetworkSwitch
  | .task netifUp lowHeap => s.task netifUp lowHeap
  | .pppGotIp => s.pppGotIp
  | .pppLostIp => s.pppLostIp
  | .staGotIp => { s with wifiStatus := true, sRetryNum := 0 }
  | .staDisconnected => { s with wifiStatus := false, sRetryNum := s.sRetryNum + 1 }
  | .wifiInit wifiStatus wifiSsidExist =>
    { s with wifiStatus := wifiStatus, wifiSsidExist := wifiSsidExist }
  | .mqttConnected => { s with mqttStatus := true }
  | .mqttDisconnected => { s with mqttStatus := false }
  | .ota isStartOta => { s with isStartOta := isStartOta }
  | .reset => s.espRestart

end NetworkSwitch

/-! ## The trial of the SIM -/

def failedAfter (failed : Nat) : NetworkObservation → Nat
  | .check mqttStatus _ => if mqttStatus = false then failed + 1 else 0
  | .gotIp | .restarted => 0
  | .simOff => failed

/-- The checks in a row that have found MQTT disconnected since the modem got its address. -/
def failedChecks (log : List NetworkObservation) : Nat := log.foldl failedAfter 0

/-- The SIM is switched off after three such checks at least. -/
def TriedFairly (before : List NetworkObservation) (e : NetworkObservation) : Prop :=
  e = .simOff → 3 ≤ failedChecks before

def FairTrial (s : NetworkSwitch) : Prop := Justified TriedFairly s.log

/-- `mqtt_count`, and what it was when the modem got its address, or 0 when it began anew
since. -/
structure OutageCount where
  count : Nat
  atIp : Nat
  deriving DecidableEq, Repr

def OutageCount.add (c : OutageCount) : NetworkObservation → OutageCount
  | .check mqttStatus isStartOta =>
    if mqttStatus = false ∧ isStartOta = .otaPending then { c with count := c.count + 1 }
    else ⟨0, 0⟩
  | .gotIp => { c with atIp := c.count }
  | .restarted => ⟨0, 0⟩
  | .simOff => c

def outageCount (log : List NetworkObservation) : OutageCount := log.foldl .add ⟨0, 0⟩

def CallsSimDenit (s : NetworkSwitch) : NetworkEvent → Prop
  | .task _ _ => s.point = .switchTest ∧ s.SwitchesOff
  | _ => False

/-- Where the SIM is switched off, the outage counter has grown by three since the modem got its
address. -/
def GrownSinceIp (s : NetworkSwitch) (e : NetworkEvent) : Prop :=
  CallsSimDenit s e → (outageCount s.log).atIp + 3 ≤ s.mqttCount

theorem failedChecks_concat (log : List NetworkObservation) (e : NetworkObservation) :
    failedChecks (log ++ [e]) = failedAfter (failedChecks log) e := List.foldl_append

theorem outageCount_concat (log : List NetworkObservation) (e : NetworkObservation) :
    outageCount (log ++ [e]) = (outageCount log).add e := List.foldl_append

/-- Since the modem got its address every check that counted has failed. A counter that began anew
since has counted no more checks than have failed. -/
structure Tracks (mqttCount : Nat) (log : List NetworkObservation) : Prop where
  count : mqttCount = (outageCount log).count
  trial : (outageCount log).atIp = 0 ∧ mqttCount ≤ failedChecks log ∨
    mqttCount = (outageCount log).atIp + failedChecks log

theorem Tracks.concat {mqttCount : Nat} {log : List NetworkObservation} (h : Tracks mqttCount log)
    (e : NetworkObservation) : Tracks ((outageCount log).add e).count (log ++ [e]) := by
  refine ⟨by rw [outageCount_concat], ?_⟩
  rw [outageCount_concat, failedChecks_concat]
  have hCount := h.count
  have hTrial := h.trial
  cases e with
  | gotIp => exact .inr rfl
  | restarted => exact .inl ⟨rfl, Nat.zero_le _⟩
  | simOff =>
    rw [OutageCount.add, failedAfter, ← hCount]
    exact hTrial
  | check mqttStatus isStartOta =>
    rw [OutageCount.add, failedAfter]
    split
    · rename_i hFails
      rw [if_pos hFails.1]
      dsimp only
      omega
    · exact .inl ⟨rfl, Nat.zero_le _⟩

theorem Tracks.fair_iff {mqttCount : Nat} {log : List NetworkObservation} (h : Tracks mqttCount log)
    (hCount : mqttCount ≥ 3) :
    3 ≤ failedChecks log ↔ (outageCount log).atIp + 3 ≤ mqttCount := by
  have hTrial := h.trial
  omega

namespace NetworkSwitch

/-! ## What a step logs -/

/-- A step logs nothing and leaves the counter, or logs what the counter shows. -/
def Logs (s next : NetworkSwitch) : Prop :=
  next.log = s.log ∧ next.mqttCount = s.mqttCount ∨
  ∃ e, e ≠ .simOff ∧ next.log = s.log ++ [e] ∧
    ∀ atIp, next.mqttCount = (OutageCount.add ⟨s.mqttCount, atIp⟩ e).count

theorem check_logs (netifUp : Bool) (s : NetworkSwitch) : Logs s (s.check netifUp) := by
  refine .inr ⟨.check s.mqttStatus s.isStartOta, nofun, ?_, fun atIp => ?_⟩
  · unfold check
    dsimp only [record]
    split
    · rfl
    · split <;> rfl
  · unfold check
    dsimp only [record, OutageCount.add]
    split
    · rfl
    · split <;> rfl

theorem espRestart_logs (s : NetworkSwitch) : Logs s s.espRestart :=
  .inr ⟨.restarted, nofun, rfl, fun _ => rfl⟩

theorem task_cases (netifUp lowHeap : Bool) (s : NetworkSwitch) :
    (s.point = .switchTest ∧ s.SwitchesOff ∧
      s.task netifUp lowHeap = { (s.record .simOff) with point := .switchingOff }) ∨
    ¬ (s.point = .switchTest ∧ s.SwitchesOff) ∧ Logs s (s.task netifUp lowHeap) := by
  unfold task
  cases hPoint : s.point with
  | waiting => exact .inr ⟨nofun, check_logs netifUp s⟩
  | reinitTest =>
    refine .inr ⟨nofun, .inl ?_⟩
    dsimp only
    unfold reinitTest
    split
    · exact ⟨rfl, rfl⟩
    · exact ⟨rfl, rfl⟩
  | switchTest =>
    dsimp only
    unfold switchTest
    split
    · rename_i hSwitches
      exact .inl ⟨rfl, hSwitches, rfl⟩
    · rename_i hStays
      exact .inr ⟨fun h => hStays h.2, .inl ⟨rfl, rfl⟩⟩
  | restartTest =>
    refine .inr ⟨nofun, ?_⟩
    dsimp only
    unfold restartTest
    split
    · exact espRestart_logs s
    · exact .inl ⟨rfl, rfl⟩
  | starting | startWait | wifiRestart | reinitDenit | reinitStart | reinitWait | switchingOff =>
    exact .inr ⟨nofun, .inl ⟨rfl, rfl⟩⟩

theorem step_cases (s : NetworkSwitch) (e : NetworkEvent) :
    (CallsSimDenit s e ∧ s.step e = { (s.record .simOff) with point := .switchingOff }) ∨
    ¬ CallsSimDenit s e ∧ Logs s (s.step e) := by
  cases e with
  | task netifUp lowHeap =>
    rcases task_cases netifUp lowHeap s with ⟨hPoint, hSwitches, hNext⟩ | ⟨hStays, hLogs⟩
    · exact .inl ⟨⟨hPoint, hSwitches⟩, hNext⟩
    · exact .inr ⟨hStays, hLogs⟩
  | pppGotIp =>
    refine .inr ⟨not_false, ?_⟩
    unfold step pppGotIp
    dsimp only
    split
    · exact .inr ⟨.gotIp, nofun, rfl, fun _ => rfl⟩
    · exact .inl ⟨rfl, rfl⟩
  | pppLostIp =>
    refine .inr ⟨not_false, .inl ?_⟩
    unfold step pppLostIp
    dsimp only
    split
    · exact ⟨rfl, rfl⟩
    · exact ⟨rfl, rfl⟩
  | reset => exact .inr ⟨not_false, espRestart_logs s⟩
  | staGotIp | staDisconnected | wifiInit _ _ | mqttConnected | mqttDisconnected | ota _ =>
    exact .inr ⟨not_false, .inl ⟨rfl, rfl⟩⟩

theorem tracks_step {s : NetworkSwitch} (h : Tracks s.mqttCount s.log) (e : NetworkEvent) :
    Tracks (s.step e).mqttCount (s.step e).log := by
  obtain ⟨_, hNext⟩ | ⟨_, ⟨hLog, hCount⟩ | ⟨entry, _, hLog, hCount⟩⟩ := step_cases s e
  · rw [hNext]
    have hSimOff := h.concat .simOff
    rw [OutageCount.add, ← h.count] at hSimOff
    exact hSimOff
  · rw [hLog, hCount]
    exact h
  · rw [hLog, hCount (outageCount s.log).atIp, h.count]
    exact h.concat entry

theorem fairTrial_step_iff {s : NetworkSwitch} (h : Tracks s.mqttCount s.log) (hFair : FairTrial s)
    (e : NetworkEvent) : FairTrial (s.step e) ↔ GrownSinceIp s e := by
  unfold FairTrial GrownSinceIp at *
  obtain ⟨hCalls, hNext⟩ | ⟨hStays, hLogs⟩ := step_cases s e
  · have hCount : s.mqttCount ≥ 3 := by
      cases e with
      | task _ _ => exact hCalls.2.1
      | pppGotIp | pppLostIp | staGotIp | staDisconnected | wifiInit _ _ | mqttConnected
      | mqttDisconnected | ota _ | reset => exact hCalls.elim
    have hLog : (s.step e).log = s.log ++ [.simOff] := by
      rw [hNext]
      rfl
    rw [hLog, justified_concat_iff, and_iff_right hFair, forall_prop_of_true hCalls,
      ← h.fair_iff hCount]
    exact forall_prop_of_true rfl
  · refine iff_of_true ?_ fun hCalls => absurd hCalls hStays
    rcases hLogs with ⟨hLog, _⟩ | ⟨entry, hEntry, hLog, _⟩
    · rw [hLog]
      exact hFair
    · rw [hLog]
      exact justified_concat_iff.mpr ⟨hFair, fun hSimOff => absurd hSimOff hEntry⟩

/-- Along a run the SIM is switched off after a fair trial only, if and only if the outage counter
has grown by three since the modem got its address whenever it is switched off. -/
theorem fairTrial_iff (events : List NetworkEvent) :
    Always step FairTrial (boot []) events ↔ Along step GrownSinceIp (boot []) events :=
  always_iff_along (J := fun s => Tracks s.mqttCount s.log) (fun _ e h => tracks_step h e)
    (fun _ e h hFair => fairTrial_step_iff h hFair e) ⟨rfl, .inl ⟨rfl, le_rfl⟩⟩
    (justified_nil _)

/-- The modem loses its address, and after seven checks it is initialised again, gets an address
and is switched off at once. -/
def reinitialised : List NetworkEvent :=
  [.task true false, .pppGotIp, .task true false, .staGotIp, .pppLostIp] ++
    List.replicate 28 (.task true false) ++ [.pppGotIp, .task true false, .task true false]

theorem reinitialised_not_tried : ¬ Always step FairTrial (boot []) reinitialised := by
  intro h
  have hLog : (run step (boot []) reinitialised).log =
      (.gotIp :: List.replicate 7 (.check false .otaPending) ++ [.gotIp]) ++ [.simOff] := by
    decide
  have hTried : 3 ≤ failedChecks
      (.gotIp :: List.replicate 7 (.check false .otaPending) ++ [.gotIp]) :=
    h.last _ .simOff [] hLog rfl
  revert hTried
  decide

end NetworkSwitch

end FcomGateway
