import FcomGateway.PlantControl

/-! # The global handle of the MQTT client

`mqtt_handle` is used by the send task, by the event handler of the client and by `on_ip_event`,
which stops and starts the client when PPP gets an address. `esp_mqtt_client_destroy` frees the
client. It waits for the client's own task first, so no event of the client comes after it.
-/

namespace FcomGateway

open EventTrace

/-- How far `on_ip_event` is with the client: not in it, or about to stop it, or about to start
it. -/
inductive IpEvent
  | idle
  | stopping
  | starting
  deriving DecidableEq, Repr

/-- `misused` tells whether some `esp_mqtt_client_*` function was called on a destroyed client. -/
structure ClientHandle where
  plant : PlantControl
  ipEvent : IpEvent
  misused : Bool
  deriving DecidableEq, Repr

inductive HandleAction
  | plant (action : PlanAction)
  | gotIp
  | ipStop
  | ipStart
  | lostIp
  deriving DecidableEq, Repr

namespace ClientHandle

def boot (certified : Bool) : ClientHandle where
  plant := .boot certified
  ipEvent := .idle
  misused := false

def call (h : ClientHandle) : ClientHandle :=
  { h with misused := h.misused || h.plant.client = .destroyed }

/-- The event handler subscribes when the client connects; the send task publishes or destroys
for the event that it takes. -/
def callsClient (s : PlantControl) : PlanAction → Bool
  | .connected => s.client = .alive
  | .send => s.client ≠ .absent ∧ s.mqttStatus = true ∧ s.dataProcess ≠ []
  | _ => false

def restarts : PlanAction → Bool
  | .restart _ => true
  | _ => false

def plantStep (action : PlanAction) (h : ClientHandle) : ClientHandle :=
  let h := if callsClient h.plant action then h.call else h
  { h with
    plant := h.plant.step action
    ipEvent := if restarts action then .idle else h.ipEvent }

/-- `IP_EVENT_PPP_GOT_IP`, up to the test of `is_start_ota` and the calls that do not concern the
client. -/
def gotIp (h : ClientHandle) : ClientHandle :=
  if h.ipEvent = .idle then
    let s := { h.plant with modemStatus := true }
    if s.isStartOta = .otaPending then
      { h with plant := s.post .gwFeedbackFlag, ipEvent := .stopping }
    else { h with plant := s }
  else h

def ipStop (h : ClientHandle) : ClientHandle :=
  if h.ipEvent = .stopping then { h.call with ipEvent := .starting } else h

def ipStart (h : ClientHandle) : ClientHandle :=
  if h.ipEvent = .starting then { h.call with ipEvent := .idle } else h

def lostIp (h : ClientHandle) : ClientHandle :=
  if h.ipEvent = .idle then
    { h with plant := PlantControl.post .gwFeedbackFlag { h.plant with modemStatus := false } }
  else h

def step (h : ClientHandle) : HandleAction → ClientHandle
  | .plant action => h.plantStep action
  | .gotIp => h.gotIp
  | .ipStop => h.ipStop
  | .ipStart => h.ipStart
  | .lostIp => h.lostIp

/-- No function of the client has been called after it was destroyed. -/
def HandleLaw (h : ClientHandle) : Prop := h.misused = false

instance (h : ClientHandle) : Decidable h.HandleLaw := inferInstanceAs (Decidable (_ = _))

/-- PPP gets an address with no update pending only while the client is there, and the send task
does not take `JOB_REQUESTED_OTA` while `on_ip_event` is on its way to the client. -/
def HandleSafe (h : ClientHandle) : HandleAction → Prop
  | .gotIp => h.ipEvent = .idle → h.plant.isStartOta = .otaPending → h.plant.client ≠ .destroyed
  | .plant .send => h.plant.mqttStatus = true →
      h.plant.dataProcess.head? = some .jobRequestedOta → h.ipEvent = .idle
  | _ => True

instance (h : ClientHandle) : (a : HandleAction) → Decidable (h.HandleSafe a)
  | .gotIp => inferInstanceAs (Decidable (h.ipEvent = .idle → _ → _ ≠ Client.destroyed))
  | .plant .send => inferInstanceAs (Decidable (h.plant.mqttStatus = true → _ → _ = IpEvent.idle))
  | .plant (.network _ _) | .plant (.plan _) | .plant (.otaEnds _) | .plant .connected
  | .plant .disconnected | .plant .updateFw | .plant (.post _) | .plant (.restart _)
  | .ipStop | .ipStart | .lostIp => .isTrue trivial

/-! ## The invariant -/

structure HandleInv (h : ClientHandle) : Prop where
  plant : h.plant.Inv
  held : h.ipEvent ≠ .idle → h.plant.client ≠ .destroyed
  law : h.HandleLaw

theorem boot_inv (certified : Bool) : (boot certified).HandleInv :=
  ⟨PlantControl.boot_inv certified, fun h => absurd rfl h, rfl⟩

theorem call_misused {h : ClientHandle} (hLaw : h.HandleLaw)
    (hClient : h.plant.client ≠ .destroyed) : h.call = h := by
  obtain ⟨plant, ipEvent, misused⟩ := h
  cases hLaw
  simp [call, decide_eq_false hClient]

theorem callsClient_alive {s : PlantControl} (hInv : s.Inv) {action : PlanAction}
    (hCall : callsClient s action = true) : s.client = .alive := by
  cases action with
  | connected => exact of_decide_eq_true hCall
  | send => exact hInv.status (of_decide_eq_true hCall).2.1
  | network _ _ | plan _ | otaEnds _ | disconnected | updateFw | post _ | restart _ => cases hCall

theorem destroyed_step {s : PlantControl} {action : PlanAction}
    (h : (s.step action).client = .destroyed) : s.client = .destroyed ∨
      action = .send ∧ s.mqttStatus = true ∧ s.dataProcess.head? = some .jobRequestedOta := by
  cases action with
  | network _ _ => exact Or.inl h
  | plan response =>
    rcases PlantControl.plantControlTask_cases response s with hNext | ⟨_, _, _, _, _, hNext⟩ |
      ⟨_, _, hNext⟩ | ⟨_, _, hNext⟩ | ⟨_, hNext⟩
    all_goals
      rw [PlantControl.step, hNext] at h
      first | exact Or.inl h | cases h
  | otaEnds success =>
    refine Or.inl ?_
    rw [PlantControl.step, PlantControl.otaProcessEnds] at h
    split at h
    · split at h <;> exact h
    · exact h
  | connected | disconnected | updateFw =>
    refine Or.inl ?_
    simp only [PlantControl.step, PlantControl.mqttConnected, PlantControl.mqttDisconnected,
      PlantControl.updateFw] at h
    split at h <;> exact h
  | post event =>
    refine Or.inl ?_
    rw [PlantControl.step, PlantControl.post] at h
    split at h <;> exact h
  | send =>
    rcases PlantControl.mqttSendTask_cases s with ⟨hNext, _⟩ | ⟨_, rest, hNext⟩ |
      ⟨hStatus, _, hJob, rest, hNext⟩
    · rw [PlantControl.step, hNext] at h
      exact Or.inl h
    · rw [PlantControl.step, hNext] at h
      exact Or.inl h
    · exact Or.inr ⟨rfl, hStatus, hJob⟩
  | restart erase => cases h

theorem HandleInv.plantStep {h : ClientHandle} (hInv : h.HandleInv) {action : PlanAction}
    (hSafe : h.HandleSafe (.plant action)) : (h.plantStep action).HandleInv := by
  have hCall : (if callsClient h.plant action then h.call else h) = h := by
    split
    · rename_i hCalls
      refine call_misused hInv.law fun hDestroyed => ?_
      rw [callsClient_alive hInv.plant hCalls] at hDestroyed
      cases hDestroyed
    · rfl
  rw [ClientHandle.plantStep, hCall]
  refine ⟨hInv.plant.step action, fun hBusy hDestroyed => ?_, hInv.law⟩
  have hStays : h.ipEvent ≠ .idle := by
    intro hIdle
    refine hBusy ?_
    change (if restarts action then IpEvent.idle else h.ipEvent) = .idle
    rw [hIdle, ite_self]
  rcases destroyed_step hDestroyed with hBefore | ⟨rfl, hStatus, hJob⟩
  · exact hInv.held hStays hBefore
  · exact hStays (hSafe hStatus hJob)

theorem HandleInv.call {h : ClientHandle} (hInv : h.HandleInv) (hBusy : h.ipEvent ≠ .idle)
    (next : IpEvent) : HandleInv { h.call with ipEvent := next } := by
  rw [call_misused hInv.law (hInv.held hBusy)]
  exact ⟨hInv.plant, fun _ => hInv.held hBusy, hInv.law⟩

theorem HandleInv.step {h : ClientHandle} (hInv : h.HandleInv) {a : HandleAction}
    (hSafe : h.HandleSafe a) : (h.step a).HandleInv := by
  cases a with
  | plant action => exact hInv.plantStep hSafe
  | gotIp =>
    have hNetwork : (h.plant.step (.network h.plant.wifiStatus true)).Inv := hInv.plant.step _
    rw [ClientHandle.step, ClientHandle.gotIp]
    split
    · rename_i hIdle
      dsimp only
      split
      · rename_i hPending
        refine ⟨hNetwork.step (.post .gwFeedbackFlag), fun _ => ?_, hInv.law⟩
        exact hSafe hIdle hPending
      · exact ⟨hNetwork, fun hBusy => absurd hIdle hBusy, hInv.law⟩
    · exact hInv
  | ipStop =>
    rw [ClientHandle.step, ClientHandle.ipStop]
    split
    · rename_i hStopping
      exact hInv.call (by rw [hStopping]; nofun) .starting
    · exact hInv
  | ipStart =>
    rw [ClientHandle.step, ClientHandle.ipStart]
    split
    · rename_i hStarting
      exact hInv.call (by rw [hStarting]; nofun) .idle
    · exact hInv
  | lostIp =>
    have hNetwork : (h.plant.step (.network h.plant.wifiStatus false)).Inv := hInv.plant.step _
    rw [ClientHandle.step, ClientHandle.lostIp]
    split
    · rename_i hIdle
      exact ⟨hNetwork.step (.post .gwFeedbackFlag), fun hBusy => absurd hIdle hBusy, hInv.law⟩
    · exact hInv

/-! ## What goes wrong outside of the condition -/

theorem call_of_destroyed {h : ClientHandle} (hClient : h.plant.client = .destroyed) :
    h.call.misused = true := by
  simp [call, hClient]

theorem busy_misuses {h : ClientHandle} (hBusy : h.ipEvent ≠ .idle)
    (hClient : h.plant.client = .destroyed) :
    ∃ a : HandleAction, ¬ (h.step a).HandleLaw := by
  have hMisused := call_of_destroyed hClient
  cases hEvent : h.ipEvent with
  | idle => exact absurd hEvent hBusy
  | stopping =>
    refine ⟨.ipStop, ?_⟩
    rw [step, ipStop, if_pos hEvent, HandleLaw]
    simp [hMisused]
  | starting =>
    refine ⟨.ipStart, ?_⟩
    rw [step, ipStart, if_pos hEvent, HandleLaw]
    simp [hMisused]

/-- Where an action does not meet the condition, one more step of `on_ip_event` is enough for a
call on the destroyed client. -/
theorem unsafe_misuses {h : ClientHandle} (hInv : h.plant.Inv) {a : HandleAction}
    (hUnsafe : ¬ h.HandleSafe a) : ∃ b : HandleAction, ¬ ((h.step a).step b).HandleLaw := by
  cases a with
  | gotIp =>
    simp only [HandleSafe, Classical.not_imp, not_not] at hUnsafe
    obtain ⟨hIdle, hPending, hClient⟩ := hUnsafe
    have hNext : h.gotIp = { h with
        plant := PlantControl.post .gwFeedbackFlag { h.plant with modemStatus := true }
        ipEvent := .stopping } := by
      rw [gotIp, if_pos hIdle]
      exact if_pos hPending
    rw [step, hNext]
    exact busy_misuses nofun hClient
  | plant action =>
    cases action with
    | send =>
      simp only [HandleSafe, Classical.not_imp] at hUnsafe
      obtain ⟨hStatus, hJob, hBusy⟩ := hUnsafe
      refine busy_misuses (h := h.plantStep .send) ?_ ?_
      · rw [plantStep]
        split <;> exact hBusy
      · have hAlive := hInv.status hStatus
        rcases PlantControl.mqttSendTask_cases h.plant with ⟨_, hAbsent⟩ | ⟨hOther, _⟩ |
          ⟨_, _, _, rest, hNext⟩
        · rw [hAbsent hStatus hJob] at hAlive
          cases hAlive
        · exact absurd hJob hOther
        · have hPlant : (h.plantStep .send).plant = h.plant.mqttSendTask := by
            rw [plantStep]
            split <;> rfl
          rw [hPlant, hNext]
    | network _ _ | plan _ | otaEnds _ | connected | disconnected | updateFw | post _
    | restart _ => exact absurd trivial hUnsafe
  | ipStop | ipStart | lostIp => exact absurd trivial hUnsafe

end ClientHandle

/-! ## Runs from boot -/

/-- In a run from boot that meets the condition no function of the client is called after
`esp_mqtt_client_destroy`. -/
theorem no_call_after_destroy (certified : Bool) {actions : List HandleAction}
    (hSafe : Along ClientHandle.step ClientHandle.HandleSafe (.boot certified) actions) :
    Always ClientHandle.step ClientHandle.HandleLaw (.boot certified) actions :=
  always_of_invariant (I := ClientHandle.HandleInv) (fun _ _ hInv hStep => hInv.step hStep)
    (fun _ hInv => hInv.law) (ClientHandle.boot_inv certified) hSafe

/-- An update is asked for, fails after the client was destroyed, and PPP comes back only after
the next boot has made a new client. -/
theorem no_call_after_destroy_of_restart : Always ClientHandle.step ClientHandle.HandleLaw
    (.boot true)
    [.plant (.network true false), .plant (.plan ⟨false, false⟩), .plant (.plan ⟨false, false⟩),
      .gotIp, .ipStop, .ipStart, .plant .connected, .plant .updateFw, .plant .send,
      .plant (.plan ⟨false, false⟩), .plant (.otaEnds false), .plant (.restart false),
      .plant (.network true false), .plant (.plan ⟨false, false⟩), .plant (.plan ⟨false, false⟩),
      .gotIp, .ipStop, .ipStart] :=
  no_call_after_destroy true (by decide)

/-- The update has failed, `is_start_ota` is `OTA_PENDING` again, and the client that
`on_ip_event` stops was destroyed for the update. -/
theorem destroyed_client_stopped : ¬ Always ClientHandle.step ClientHandle.HandleLaw (.boot true)
    [.plant (.network true false), .plant (.plan ⟨false, false⟩), .plant (.plan ⟨false, false⟩),
      .plant .connected, .plant .updateFw, .plant .send, .plant (.plan ⟨false, false⟩),
      .plant (.otaEnds false), .gotIp, .ipStop] := by
  decide

end FcomGateway
