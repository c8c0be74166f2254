import FcomGateway.System

/-! # The plan task and the life of the MQTT client

`PlantControl_Task` gets the certificates, starts the MQTT client or an update, and then only
waits for manual updates. `ota_process` blocks it. The client is created once, by
`mqtt_task_start`, and destroyed by the send task under `JOB_REQUESTED_OTA`.
-/

namespace FcomGateway

open EventTrace

inductive PlanState
  | verifyMqttCert
  | activateMqtt
  | waitManualOta
  deriving DecidableEq, Repr

inductive OtaState
  | otaPending
  | otaStart
  | otaDone
  deriving DecidableEq, Repr

inductive Client
  | absent
  | alive
  | destroyed
  deriving DecidableEq, Repr

/-- Whether the plan task is inside `ota_process`, or waits there for `esp_restart`. -/
inductive OtaRun
  | idle
  | running
  | rebooting
  deriving DecidableEq, Repr

/-- `certified` says that the three files are in flash from which the next boot sets
`get_active_start`. -/
structure PlantControl where
  planState : PlanState
  isStartOta : OtaState
  getActiveStart : Bool
  certified : Bool
  wifiStatus : Bool
  modemStatus : Bool
  client : Client
  mqttStatus : Bool
  dataProcess : List DataEvent
  ota : OtaRun
  deriving DecidableEq, Repr

/-- What the activation request of `mqtt_get_cer` came to: whether the server answered with new
firmware, and whether all files were downloaded and saved. -/
structure Activation where
  newFirmware : Bool
  hasCert : Bool
  deriving DecidableEq, Repr

inductive PlanAction
  | network (wifiStatus modemStatus : Bool)
  | plan (response : Activation)
  | otaEnds (success : Bool)
  | connected
  | disconnected
  | updateFw
  | post (event : DataEvent)
  | send
  | restart (erase : Bool)
  deriving DecidableEq, Repr

namespace PlantControl

def boot (certified : Bool) : PlantControl where
  planState := .verifyMqttCert
  isStartOta := .otaPending
  getActiveStart := certified
  certified := certified
  wifiStatus := false
  modemStatus := false
  client := .absent
  mqttStatus := false
  dataProcess := []
  ota := .idle

def mqttGetCer (response : Activation) (s : PlantControl) : PlantControl :=
  { s with
    isStartOta := if response.newFirmware then .otaStart else s.isStartOta
    certified := s.certified || response.hasCert }

def mqttTaskStart (s : PlantControl) : PlantControl := { s with client := .alive }

/-- One round of `PlantControl_Task`. -/
def plantControlTask (response : Activation) (s : PlantControl) : PlantControl :=
  if s.ota = .idle ∧ (s.wifiStatus = true ∨ s.modemStatus = true) then
    match s.planState with
    | .verifyMqttCert =>
      if s.getActiveStart then { s with planState := .activateMqtt }
      else if response.hasCert then { s.mqttGetCer response with planState := .activateMqtt }
      else s.mqttGetCer response
    | .activateMqtt =>
      if s.isStartOta = .otaPending then { s.mqttTaskStart with planState := .waitManualOta }
      else if s.getActiveStart = false ∧ s.isStartOta = .otaStart then { s with ota := .running }
      else { s with planState := .waitManualOta }
    | .waitManualOta =>
      if s.getActiveStart = true ∧ s.isStartOta = .otaStart then { s with ota := .running } else s
  else s

/-- The end of `ota_process`. After a failure the plan task goes on; in `ACTIVATE_MQTT` it goes
on to `WAIT_MANUAL_OTA`. -/
def otaProcessEnds (success : Bool) (s : PlantControl) : PlantControl :=
  if s.ota = .running then
    if success then { s with isStartOta := .otaDone, ota := .rebooting }
    else
      { s with
        isStartOta := .otaPending
        ota := .idle
        planState := if s.planState = .activateMqtt then .waitManualOta else s.planState }
  else s

def mqttConnected (s : PlantControl) : PlantControl :=
  if s.client = .alive then { s with mqttStatus := true, getActiveStart := true } else s

def mqttDisconnected (s : PlantControl) : PlantControl :=
  if s.client = .alive then { s with mqttStatus := false } else s

/-- The `update_fw` command of `json_parser_gw_job`. -/
def updateFw (s : PlantControl) : PlantControl :=
  if s.client = .alive then
    { s with isStartOta := .otaStart, dataProcess := enqueue .jobRequestedOta s.dataProcess }
  else s

/-- A send by another task, which never is `JOB_REQUESTED_OTA`. -/
def post (event : DataEvent) (s : PlantControl) : PlantControl :=
  if event = .jobRequestedOta then s else { s with dataProcess := enqueue event s.dataProcess }

/-- One pass of `mqtt_send_task`, which exists as soon as the client does. -/
def mqttSendTask (s : PlantControl) : PlantControl :=
  if s.client ≠ .absent ∧ s.mqttStatus = true then
    match s.dataProcess with
    | .jobRequestedOta :: rest =>
      { s with dataProcess := rest, client := .destroyed, mqttStatus := false }
    | _ :: rest => { s with dataProcess := rest }
    | [] => s
  else s

/-- `esp_restart`, called after an update, by the network task after 60 counts without MQTT, and
under the user button, which erases the flash before. -/
def espRestart (erase : Bool) (s : PlantControl) : PlantControl := boot (s.certified && !erase)

def step (s : PlantControl) : PlanAction → PlantControl
  | .network wifiStatus modemStatus =>
    { s with wifiStatus := wifiStatus, modemStatus := modemStatus }
  | .plan response => s.plantControlTask response
  | .otaEnds success => s.otaProcessEnds success
  | .connected => s.mqttConnected
  | .disconnected => s.mqttDisconnected
  | .updateFw => s.updateFw
  | .post event => s.post event
  | .send => s.mqttSendTask
  | .restart erase => s.espRestart erase

/-- A gateway that waits with no update pending has its MQTT client. -/
def ClientLaw (s : PlantControl) : Prop :=
  s.planState = .waitManualOta → s.isStartOta = .otaPending → s.client = .alive

instance (s : PlantControl) : Decidable s.ClientLaw := by
  unfold ClientLaw
  infer_instance

/-- An update fails only where the client is still there, and `JOB_REQUESTED_OTA` is not handled
after the update that it asked for has failed. -/
def ClientSafe (s : PlantControl) : PlanAction → Prop
  | .otaEnds success =>
    s.ota = .running → success = false → s.planState = .waitManualOta ∧ s.client = .alive
  | .send =>
    s.mqttStatus = true → s.dataProcess.head? = some .jobRequestedOta →
      ¬ (s.planState = .waitManualOta ∧ s.isStartOta = .otaPending)
  | _ => True

instance (s : PlantControl) (a : PlanAction) : Decidable (ClientSafe s a) := by
  cases a <;> unfold ClientSafe <;> infer_instance

/-! ## What a round and a pass can do -/

theorem plantControlTask_cases (response : Activation) (s : PlantControl) :
    s.plantControlTask response = s ∨
    (s.planState = .verifyMqttCert ∧ ∃ mode start certified, mode ≠ .waitManualOta ∧
      s.plantControlTask response =
        { s with planState := mode, isStartOta := start, certified := certified }) ∨
    (s.planState = .activateMqtt ∧ s.isStartOta = .otaPending ∧
      s.plantControlTask response = { s with client := .alive, planState := .waitManualOta }) ∨
    (s.planState = .activateMqtt ∧ s.isStartOta ≠ .otaPending ∧
      s.plantControlTask response = { s with planState := .waitManualOta }) ∨
    (s.planState ≠ .verifyMqttCert ∧
      s.plantControlTask response = { s with ota := .running }) := by
  unfold plantControlTask
  split
  · cases hState : s.planState with
    | verifyMqttCert =>
      refine Or.inr (Or.inl ⟨rfl, ?_⟩)
      dsimp only
      split
      · exact ⟨.activateMqtt, _, _, nofun, rfl⟩
      · split
        · exact ⟨.activateMqtt, _, _, nofun, rfl⟩
        · exact ⟨.verifyMqttCert, _, _, nofun, by rw [← hState]; rfl⟩
    | activateMqtt =>
      dsimp only
      by_cases hPending : s.isStartOta = .otaPending
      · rw [if_pos hPending]
        exact Or.inr (Or.inr (Or.inl ⟨rfl, hPending, rfl⟩))
      · rw [if_neg hPending]
        split
        · exact Or.inr (Or.inr (Or.inr (Or.inr ⟨nofun, by rw [← hState]⟩)))
        · exact Or.inr (Or.inr (Or.inr (Or.inl ⟨rfl, hPending, rfl⟩)))
    | waitManualOta =>
      dsimp only
      split
      · exact Or.inr (Or.inr (Or.inr (Or.inr ⟨nofun, by rw [← hState]⟩)))
      · exact Or.inl rfl
  · exact Or.inl rfl

theorem mqttSendTask_cases (s : PlantControl) :
    (s.mqttSendTask = s ∧
      (s.mqttStatus = true → s.dataProcess.head? = some .jobRequestedOta → s.client = .absent)) ∨
    (s.dataProcess.head? ≠ some .jobRequestedOta ∧ ∃ rest,
      s.mqttSendTask = { s with dataProcess := rest }) ∨
    (s.mqttStatus = true ∧ s.client ≠ .absent ∧ s.dataProcess.head? = some .jobRequestedOta ∧
      ∃ rest, s.mqttSendTask =
        { s with dataProcess := rest, client := .destroyed, mqttStatus := false }) := by
  unfold mqttSendTask
  split
  · rename_i hRuns
    cases hQueue : s.dataProcess with
    | nil => exact Or.inl ⟨rfl, fun _ hHead => by cases hHead⟩
    | cons event rest =>
      cases event with
      | jobRequestedOta => exact Or.inr (Or.inr ⟨hRuns.2, hRuns.1, rfl, rest, rfl⟩)
      | _ => exact Or.inr (Or.inl ⟨nofun, rest, rfl⟩)
  · rename_i hStops
    refine Or.inl ⟨rfl, fun hStatus _ => ?_⟩
    by_contra hClient
    exact hStops ⟨hClient, hStatus⟩

/-! ## Where the client and the update can be -/

structure Inv (s : PlantControl) : Prop where
  ota : s.ota = .running → s.planState ≠ .verifyMqttCert
  client : s.client ≠ .absent → s.planState = .waitManualOta
  status : s.mqttStatus = true → s.client = .alive

theorem boot_inv (certified : Bool) : (boot certified).Inv := ⟨nofun, nofun, nofun⟩

theorem Inv.plantControlTask {s : PlantControl} (h : s.Inv) (response : Activation) :
    (s.plantControlTask response).Inv := by
  obtain ⟨hOta, hClient, hStatus⟩ := h
  rcases plantControlTask_cases response s with hSame | ⟨hVerify, _, _, _, _, hNext⟩ |
    ⟨_, _, hNext⟩ | ⟨_, _, hNext⟩ | ⟨hState, hNext⟩
  · rw [hSame]
    exact ⟨hOta, hClient, hStatus⟩
  · rw [hNext]
    have hAbsent : s.client = .absent := by
      by_contra hPresent
      rw [hClient hPresent] at hVerify
      cases hVerify
    exact ⟨fun hRunning => absurd hVerify (hOta hRunning),
      fun hPresent => absurd hAbsent hPresent, hStatus⟩
  · rw [hNext]
    exact ⟨fun _ => nofun, fun _ => rfl, fun _ => rfl⟩
  · rw [hNext]
    exact ⟨fun _ => nofun, fun _ => rfl, hStatus⟩
  · rw [hNext]
    exact ⟨fun _ => hState, hClient, hStatus⟩

theorem Inv.mqttSendTask {s : PlantControl} (h : s.Inv) : s.mqttSendTask.Inv := by
  obtain ⟨hOta, hClient, hStatus⟩ := h
  rcases mqttSendTask_cases s with ⟨hSame, _⟩ | ⟨_, rest, hNext⟩ | ⟨_, hPresent, _, rest, hNext⟩
  · rw [hSame]
    exact ⟨hOta, hClient, hStatus⟩
  · rw [hNext]
    exact ⟨hOta, hClient, hStatus⟩
  · rw [hNext]
    exact ⟨hOta, fun _ => hClient hPresent, nofun⟩

theorem Inv.otaProcessEnds {s : PlantControl} (h : s.Inv) (success : Bool) :
    (s.otaProcessEnds success).Inv := by
  unfold PlantControl.otaProcessEnds
  split
  · cases success with
    | true => exact ⟨nofun, h.client, h.status⟩
    | false =>
      refine ⟨nofun, fun hPresent => ?_, h.status⟩
      have hWait := h.client hPresent
      simp [hWait]
  · exact h

theorem Inv.step {s : PlantControl} (h : s.Inv) (a : PlanAction) : (s.step a).Inv := by
  cases a with
  | network wifiStatus modemStatus => exact ⟨h.ota, h.client, h.status⟩
  | plan response => exact h.plantControlTask response
  | otaEnds success => exact h.otaProcessEnds success
  | connected =>
    simp only [PlantControl.step, mqttConnected]
    split
    · exact ⟨h.ota, h.client, fun _ => ‹s.client = .alive›⟩
    · exact h
  | disconnected =>
    simp only [PlantControl.step, mqttDisconnected]
    split
    · exact ⟨h.ota, h.client, nofun⟩
    · exact h
  | updateFw =>
    simp only [PlantControl.step, updateFw]
    split
    · exact ⟨h.ota, h.client, h.status⟩
    · exact h
  | post event =>
    simp only [PlantControl.step, post]
    split
    · exact h
    · exact ⟨h.ota, h.client, h.status⟩
  | send => exact h.mqttSendTask
  | restart erase => exact boot_inv _

/-! ## The law, step by step -/

theorem clientLaw_otaEnds {s : PlantControl} (success : Bool) (hInv : s.Inv)
    (hLaw : s.ClientLaw) :
    (s.otaProcessEnds success).ClientLaw ↔ s.ClientSafe (.otaEnds success) := by
  by_cases hRunning : s.ota = .running
  swap
  · rw [otaProcessEnds, if_neg hRunning]
    exact iff_of_true hLaw fun hRuns => absurd hRuns hRunning
  rw [otaProcessEnds, if_pos hRunning]
  cases success with
  | true => exact iff_of_true (fun _ => nofun) fun _ => nofun
  | false =>
    constructor
    · intro hNext _ _
      have hWait : (if s.planState = .activateMqtt then .waitManualOta else s.planState) =
          PlanState.waitManualOta := by
        cases hState : s.planState with
        | verifyMqttCert => exact absurd hState (hInv.ota hRunning)
        | activateMqtt | waitManualOta => rfl
      have hAlive : s.client = .alive := hNext hWait rfl
      exact ⟨hInv.client (by rw [hAlive]; nofun), hAlive⟩
    · intro hSafe _ _
      exact (hSafe hRunning rfl).2

theorem clientLaw_send {s : PlantControl} (hInv : s.Inv) (hLaw : s.ClientLaw) :
    s.mqttSendTask.ClientLaw ↔ s.ClientSafe .send := by
  rcases mqttSendTask_cases s with ⟨hSame, hAbsent⟩ | ⟨hOther, rest, hNext⟩ |
    ⟨hStatus, _, hJob, rest, hNext⟩
  · rw [hSame]
    refine iff_of_true hLaw fun hStatus hJob => ?_
    have hAlive := hInv.status hStatus
    rw [hAbsent hStatus hJob] at hAlive
    cases hAlive
  · rw [hNext]
    exact iff_of_true hLaw fun _ hJob => absurd hJob hOther
  · rw [hNext]
    constructor
    · rintro hNever _ _ ⟨hWait, hPending⟩
      have hAlive := hNever hWait hPending
      cases hAlive
    · intro hSafe hWait hPending
      exact absurd ⟨hWait, hPending⟩ (hSafe hStatus hJob)

theorem clientLaw_step {s : PlantControl} (a : PlanAction) (hInv : s.Inv) (hLaw : s.ClientLaw) :
    (s.step a).ClientLaw ↔ s.ClientSafe a := by
  cases a with
  | network wifiStatus modemStatus => exact iff_of_true hLaw trivial
  | plan response =>
    refine iff_of_true ?_ trivial
    rcases plantControlTask_cases response s with hSame | ⟨_, mode, _, _, hMode, hNext⟩ |
      ⟨_, _, hNext⟩ | ⟨_, hPending, hNext⟩ | ⟨_, hNext⟩
    · rw [step, hSame]
      exact hLaw
    · rw [step, hNext]
      exact fun hWait => absurd hWait hMode
    · rw [step, hNext]
      exact fun _ _ => rfl
    · rw [step, hNext]
      exact fun _ hStart => absurd hStart hPending
    · rw [step, hNext]
      exact hLaw
  | otaEnds success => exact clientLaw_otaEnds success hInv hLaw
  | connected =>
    refine iff_of_true ?_ trivial
    simp only [step, mqttConnected]
    split <;> exact hLaw
  | disconnected =>
    refine iff_of_true ?_ trivial
    simp only [step, mqttDisconnected]
    split <;> exact hLaw
  | updateFw =>
    refine iff_of_true ?_ trivial
    simp only [step, updateFw]
    split
    · exact fun _ => nofun
    · exact hLaw
  | post event =>
    refine iff_of_true ?_ trivial
    simp only [step, post]
    split <;> exact hLaw
  | send => exact clientLaw_send hInv hLaw
  | restart erase => exact iff_of_true nofun trivial

/-! ## Without a restart there is no second client -/

theorem stranded_step {s : PlantControl} {a : PlanAction} (hWait : s.planState = .waitManualOta)
    (hClient : s.client ≠ .alive) (hStays : ∀ erase, a ≠ .restart erase) :
    (s.step a).planState = .waitManualOta ∧ (s.step a).client ≠ .alive := by
  cases a with
  | network wifiStatus modemStatus => exact ⟨hWait, hClient⟩
  | plan response =>
    rcases plantControlTask_cases response s with hSame | ⟨hVerify, _⟩ | ⟨hActivate, _⟩ |
      ⟨hActivate, _⟩ | ⟨_, hNext⟩
    · rw [step, hSame]
      exact ⟨hWait, hClient⟩
    · rw [hWait] at hVerify
      cases hVerify
    · rw [hWait] at hActivate
      cases hActivate
    · rw [hWait] at hActivate
      cases hActivate
    · rw [step, hNext]
      exact ⟨hWait, hClient⟩
  | otaEnds success =>
    simp only [step, otaProcessEnds]
    split
    · cases success with
      | true => exact ⟨hWait, hClient⟩
      | false => exact ⟨by simp [hWait], hClient⟩
    · exact ⟨hWait, hClient⟩
  | connected | disconnected | updateFw =>
    simp only [step, mqttConnected, mqttDisconnected, updateFw, if_neg hClient]
    exact ⟨hWait, hClient⟩
  | post event =>
    simp only [step, post]
    split <;> exact ⟨hWait, hClient⟩
  | send =>
    rcases mqttSendTask_cases s with ⟨hSame, _⟩ | ⟨_, rest, hNext⟩ | ⟨_, _, _, rest, hNext⟩
    · rw [step, hSame]
      exact ⟨hWait, hClient⟩
    · rw [step, hNext]
      exact ⟨hWait, hClient⟩
    · rw [step, hNext]
      exact ⟨hWait, nofun⟩
  | restart erase => exact absurd rfl (hStays erase)

/-- A gateway that waits without its client never gets one again before `esp_restart`. -/
theorem stranded_until_restart {s : PlantControl} (hWait : s.planState = .waitManualOta)
    (hClient : s.client ≠ .alive) {actions : List PlanAction}
    (hStays : ∀ a ∈ actions, ∀ erase, a ≠ .restart erase) :
    (run step s actions).client ≠ .alive := by
  induction actions generalizing s with
  | nil => exact hClient
  | cons a rest ih =>
    obtain ⟨hWait', hClient'⟩ := stranded_step hWait hClient (hStays a List.mem_cons_self)
    exact ih hWait' hClient' fun b hb => hStays b (List.mem_cons_of_mem a hb)

/-! ## The connection and the queue of the gateway -/

structure Tracks (s : PlantControl) (g : Gateway) : Prop where
  status : s.mqttStatus = g.gatewayData.mqttStatus
  queue : s.dataProcess = g.dataProcess

theorem Tracks.send {s : PlantControl} {g : Gateway} (h : s.Tracks g)
    (hClient : s.client ≠ .absent) : s.mqttSendTask.Tracks (FcomGateway.mqttSendTask g) := by
  cases hOnline : g.gatewayData.mqttStatus with
  | false =>
    simp only [mqttSendTask, FcomGateway.mqttSendTask, h.status, hOnline]
    simpa using h
  | true =>
    have hRuns : s.client ≠ .absent ∧ s.mqttStatus = true := ⟨hClient, h.status.trans hOnline⟩
    rw [mqttSendTask, FcomGateway.mqttSendTask, if_pos hRuns, if_pos hOnline, h.queue]
    cases hQueue : g.dataProcess with
    | nil => exact h
    | cons event rest =>
      by_cases hJob : event = .jobRequestedOta
      · subst hJob
        exact ⟨rfl, rfl⟩
      · have hStatus := handleDataEvent_gatewayData hJob { g with dataProcess := rest }
        have hRest := handleDataEvent_dataProcess event { g with dataProcess := rest }
        dsimp only
        refine ⟨?_, ?_⟩
        · rw [hStatus]
          cases event <;> first | exact h.status | exact absurd rfl hJob
        · rw [hRest]
          cases event <;> rfl

theorem Tracks.updateFw {s : PlantControl} {g : Gateway} (h : s.Tracks g)
    (hClient : s.client = .alive) : s.updateFw.Tracks (FcomGateway.updateFw g) := by
  rw [PlantControl.updateFw, if_pos hClient]
  exact ⟨h.status, congrArg (enqueue .jobRequestedOta) h.queue⟩

theorem Tracks.post {s : PlantControl} {g : Gateway} (h : s.Tracks g) (event : DataEvent)
    (hEvent : event ≠ .jobRequestedOta) : (s.post event).Tracks (xQueueSend event g) := by
  rw [PlantControl.post, if_neg hEvent]
  exact ⟨h.status, congrArg (enqueue event) h.queue⟩

theorem Tracks.disconnected {s : PlantControl} {g : Gateway} (h : s.Tracks g)
    (hClient : s.client = .alive) :
    s.mqttDisconnected.Tracks (FcomGateway.mqttDisconnected g) := by
  rw [PlantControl.mqttDisconnected, if_pos hClient]
  exact ⟨rfl, h.queue⟩

theorem Tracks.connected {s : PlantControl} {g : Gateway} (h : s.Tracks g)
    (hClient : s.client = .alive) : ∃ events : List DataEvent,
    (run step s (.connected :: events.map .post)).Tracks (FcomGateway.mqttConnected g) := by
  have hOnline : s.mqttConnected.Tracks
      { g with gatewayData := { g.gatewayData with mqttStatus := true } } := by
    rw [PlantControl.mqttConnected, if_pos hClient]
    exact ⟨rfl, h.queue⟩
  unfold FcomGateway.mqttConnected
  dsimp only
  split
  · have hFirst := hOnline.post .gwFeedbackFlag nofun
    split
    · have hReset := hFirst.post .gwResetSsState nofun
      exact ⟨[.gwFeedbackFlag, .gwResetSsState], hReset.status, hReset.queue⟩
    · exact ⟨[.gwFeedbackFlag], hFirst.status, hFirst.queue⟩
  · exact ⟨[], hOnline⟩

end PlantControl

/-! ## Runs from boot -/

/-- In a run from boot every waiting gateway without a pending update has its client if and only
if the updates that fail do so with the client still there. -/
theorem clientLaw_always_iff (certified : Bool) (actions : List PlanAction) :
    Always PlantControl.step PlantControl.ClientLaw (PlantControl.boot certified) actions ↔
      Along PlantControl.step PlantControl.ClientSafe (PlantControl.boot certified) actions :=
  always_iff_along (J := PlantControl.Inv) (fun _ a h => h.step a)
    (fun _ a hInv hLaw => PlantControl.clientLaw_step a hInv hLaw)
    (PlantControl.boot_inv certified) nofun

/-- The activation response announces new firmware and the update fails: `plan_state` goes to
`WAIT_MANUAL_OTA` without `mqtt_task_start`. -/
theorem update_fails_before_mqtt : ¬ Always PlantControl.step PlantControl.ClientLaw
    (PlantControl.boot false)
    [.network true false, .plan ⟨true, true⟩, .plan ⟨false, false⟩, .otaEnds false] := by
  decide

/-- An `update_fw` job destroys the client before its update fails. -/
example : ¬ Always PlantControl.step PlantControl.ClientLaw (PlantControl.boot true)
    [.network true false, .plan ⟨false, false⟩, .plan ⟨false, false⟩, .connected, .updateFw, .send,
      .plan ⟨false, false⟩, .otaEnds false] := by
  decide

end FcomGateway
