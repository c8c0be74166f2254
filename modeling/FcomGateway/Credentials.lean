import FcomGateway.PlantControl

/-! # The credentials in flash

`mqtt_get_cer` asks the server for an activation and saves three files: the client id from the
response, then the certificate and the private key from the links in it. Each step can fail, and a
reset can come between any two. `app_main` takes the gateway as activated when it can read all
three.
-/

namespace FcomGateway

open EventTrace

/-- A text and the number of the activation response that gave it, or gave the link to it. -/
structure Sourced where
  text : List UInt8
  response : Nat
  deriving DecidableEq, Repr

/-- The call of `mqtt_get_cer` that wrote a file, and the activation response that it wrote it
for. -/
structure Origin where
  call : Nat
  response : Nat
  deriving DecidableEq, Repr

structure SavedFile where
  text : List UInt8
  origin : Origin
  deriving DecidableEq, Repr

structure CredentialFiles where
  clientId : Option SavedFile
  certificatePem : Option SavedFile
  privatePem : Option SavedFile
  deriving DecidableEq, Repr

structure MqttConfig where
  clientId : Sourced
  certificatePemLink : Sourced
  privatePemLink : Sourced
  certificatePem : Sourced
  privatePem : Sourced
  deriving DecidableEq, Repr

inductive MqttGetState
  | cerLink
  | cerPemValue
  | privatePemValue
  deriving DecidableEq, Repr

/-- The items of `data` in an activation response, with the value that the parser reads. -/
structure CertificateData where
  clientId : Option (List UInt8)
  certificatePem : Option (List UInt8)
  privatePem : Option (List UInt8)
  newFirmware : Option Int
  urlFirmware : Option (List UInt8)
  hashFirmware : Option (List UInt8)
  deriving DecidableEq, Repr

structure CertificateMessage where
  success : Int
  data : Option CertificateData
  deriving DecidableEq, Repr

/-- How far the plan task is in `mqtt_get_cer`. -/
inductive GetCer
  | idle
  | activating
  | savingClientId
  | gettingCertificate
  | savingCertificate
  | gettingPrivate
  | savingPrivate
  | done
  deriving DecidableEq, Repr

/-- `calls` and `responses` count the calls of `mqtt_get_cer` and the parsed responses since the
first boot. -/
structure Credentials where
  plant : PlantControl
  files : CredentialFiles
  config : MqttConfig
  otaMessageLink : List UInt8
  mqttGetState : MqttGetState
  pageNotFound : Bool
  stage : GetCer
  calls : Nat
  responses : Nat
  deriving DecidableEq, Repr

/-- `disconnected` brings what `cJSON_ParseWithLength` made of the received text, `downloaded` the
received text, if the download came to an end. -/
inductive CredentialAction
  | plant (action : PlanAction)
  | disconnected (message : Option CertificateMessage)
  | performed (ok : Bool)
  | downloaded (body : Option (List UInt8))
  | save
  deriving DecidableEq, Repr

def CredentialFiles.none : CredentialFiles := ⟨.none, .none, .none⟩

def CredentialFiles.Complete (f : CredentialFiles) : Prop :=
  f.clientId.isSome ∧ f.certificatePem.isSome ∧ f.privatePem.isSome

instance (f : CredentialFiles) : Decidable f.Complete := inferInstanceAs (Decidable (_ ∧ _))

/-- What `flash_client_*_read` leaves in `mqtt_config`. -/
def readBack (length : Nat) (ending : List UInt8) : Option SavedFile → Sourced
  | some file => ⟨file.text.take length ++ ending, file.origin.response⟩
  | .none => ⟨[], 0⟩

namespace Credentials

def boot (files : CredentialFiles) (calls responses : Nat) : Credentials where
  plant := .boot files.Complete
  files := files
  config :=
    { clientId := readBack 50 [] files.clientId
      certificatePemLink := ⟨[], 0⟩
      privatePemLink := ⟨[], 0⟩
      certificatePem := readBack 2000 [0x0A] files.certificatePem
      privatePem := readBack 2000 [0x0A] files.privatePem }
  otaMessageLink := []
  mqttGetState := .cerLink
  pageNotFound := false
  stage := .idle
  calls := calls
  responses := responses

/-- `esp_restart`, after `flash_erase_all_partions` under the user button. -/
def restart (erase : Bool) (s : Credentials) : Credentials :=
  boot (if erase then .none else s.files) s.calls s.responses

/-- `json_parser_certificate`; `none` is the access to an item that is not there. -/
def jsonParserCertificate (message : Option CertificateMessage) (s : Credentials) :
    Option (Bool × Credentials) :=
  match message with
  | .none => some (false, s)
  | some message =>
    if message.success = 1 then
      match message.data with
      | .none => some (false, s)
      | some data => do
        let clientId ← data.clientId
        let certificatePem ← data.certificatePem
        let privatePem ← data.privatePem
        let newFirmware ← data.newFirmware
        let urlFirmware ← data.urlFirmware
        let _ ← data.hashFirmware
        return (true, { s with
          plant := { s.plant with
            isStartOta := if newFirmware ≠ 0 then .otaStart else s.plant.isStartOta }
          config := { s.config with
            clientId := ⟨clientId, s.responses⟩
            certificatePemLink := ⟨certificatePem, s.responses⟩
            privatePemLink := ⟨privatePem, s.responses⟩ }
          otaMessageLink := urlFirmware })
    else some (false, s)

/-- `HTTP_EVENT_DISCONNECTED`, which the client sends when a connection ends, also in
`esp_http_client_cleanup`. -/
def disconnected (message : Option CertificateMessage) (s : Credentials) : Credentials :=
  if s.stage ∈ [.activating, .gettingCertificate, .savingCertificate, .gettingPrivate,
      .savingPrivate] ∧ s.mqttGetState = .cerLink then
    match jsonParserCertificate message { s with responses := s.responses + 1 } with
    | some (status, s) => { s with pageNotFound := status }
    | .none => s.restart false
  else s

def fail (s : Credentials) : Credentials := { s with stage := .idle, mqttGetState := .cerLink }

def performed (ok : Bool) (s : Credentials) : Credentials :=
  if s.stage = .activating then
    if ok = true ∧ s.pageNotFound = true then { s with stage := .savingClientId } else s.fail
  else s

def downloaded (body : Option (List UInt8)) (s : Credentials) : Credentials :=
  match s.stage, body with
  | .gettingCertificate, some text =>
    { s with
      config := { s.config with
        certificatePem := ⟨text ++ [0x0A], s.config.certificatePemLink.response⟩ }
      stage := .savingCertificate }
  | .gettingPrivate, some text =>
    { s with
      config := { s.config with
        privatePem := ⟨text ++ [0x0A], s.config.privatePemLink.response⟩ }
      stage := .savingPrivate }
  | .gettingCertificate, .none | .gettingPrivate, .none => s.fail
  | _, _ => s

def savedFile (text : Sourced) (s : Credentials) : Option SavedFile :=
  some ⟨text.text, ⟨s.calls, text.response⟩⟩

/-- `flash_client_id_save`, `flash_client_cert_pem_save` and `flash_client_private_pem_save`. -/
def save (s : Credentials) : Credentials :=
  match s.stage with
  | .savingClientId =>
    { s with
      files := { s.files with clientId := s.savedFile s.config.clientId }
      mqttGetState := .cerPemValue
      stage := .gettingCertificate }
  | .savingCertificate =>
    { s with
      files := { s.files with certificatePem := s.savedFile s.config.certificatePem }
      mqttGetState := .privatePemValue
      stage := .gettingPrivate }
  | .savingPrivate =>
    { s with
      plant := { s.plant with certified := true }
      files := { s.files with privatePem := s.savedFile s.config.privatePem }
      stage := .done }
  | _ => s

/-- The round of `PlantControl_Task` that calls `mqtt_get_cer`. -/
def Activates (s : PlantControl) : Prop :=
  s.ota = .idle ∧ (s.wifiStatus = true ∨ s.modemStatus = true) ∧
    s.planState = .verifyMqttCert ∧ s.getActiveStart = false

instance (s : PlantControl) : Decidable (Activates s) := inferInstanceAs (Decidable (_ ∧ _))

def planRound (s : Credentials) : Credentials :=
  match s.stage with
  | .idle =>
    if Activates s.plant then { s with stage := .activating, calls := s.calls + 1 }
    else { s with plant := s.plant.plantControlTask ⟨false, false⟩ }
  | .done =>
    { s with
      plant := { s.plant with planState := .activateMqtt }
      mqttGetState := .cerLink
      stage := .idle }
  | _ => s

def step (s : Credentials) : CredentialAction → Credentials
  | .plant (.plan _) => s.planRound
  | .plant (.restart erase) => s.restart erase
  | .plant action => { s with plant := s.plant.step action }
  | .disconnected message => s.disconnected message
  | .performed ok => s.performed ok
  | .downloaded body => s.downloaded body
  | .save => s.save

def first : Credentials := boot .none 0 0

/-- If all three files exist, one call wrote them for one activation response. -/
def FilesLaw (s : Credentials) : Prop :=
  s.files.Complete → ∃ origin : Origin, s.files.clientId.map (·.origin) = some origin ∧
    s.files.certificatePem.map (·.origin) = some origin ∧
    s.files.privatePem.map (·.origin) = some origin

/-! ## What the plan task does without a call -/

/-- The plan task has left `VERIFY_MQTT_CERT` or is about to, without a call. -/
def Settled (s : PlantControl) : Prop :=
  s.planState ≠ .verifyMqttCert ∨ s.getActiveStart = true

structure Quiet (s next : PlantControl) : Prop where
  certified : next.certified = s.certified
  settled : Settled s → Settled next

theorem Quiet.of_eq {s next : PlantControl} (hCertified : next.certified = s.certified)
    (hState : next.planState = s.planState) (hStart : next.getActiveStart = s.getActiveStart) :
    Quiet s next := by
  refine ⟨hCertified, ?_⟩
  rw [Settled, Settled, hState, hStart]
  exact id

theorem plantControlTask_quiet {s : PlantControl} (hCall : ¬ Activates s) :
    Quiet s (s.plantControlTask ⟨false, false⟩) := by
  unfold PlantControl.plantControlTask
  split
  · rename_i hRuns
    cases hState : s.planState with
    | verifyMqttCert =>
      cases hStart : s.getActiveStart with
      | true => exact ⟨rfl, fun _ => Or.inl nofun⟩
      | false => exact absurd ⟨hRuns.1, hRuns.2, hState, hStart⟩ hCall
    | activateMqtt =>
      dsimp only
      split
      · exact ⟨rfl, fun _ => Or.inl nofun⟩
      · split
        · exact Quiet.of_eq rfl hState.symm rfl
        · exact ⟨rfl, fun _ => Or.inl nofun⟩
    | waitManualOta =>
      dsimp only
      split
      · exact Quiet.of_eq rfl hState.symm rfl
      · exact Quiet.of_eq rfl rfl rfl
  · exact Quiet.of_eq rfl rfl rfl

theorem step_quiet (s : PlantControl) {action : PlanAction}
    (hPlan : ∀ response, action ≠ .plan response) (hRestart : ∀ erase, action ≠ .restart erase) :
    Quiet s (s.step action) := by
  cases action with
  | plan response => exact absurd rfl (hPlan response)
  | restart erase => exact absurd rfl (hRestart erase)
  | network _ _ => exact Quiet.of_eq rfl rfl rfl
  | otaEnds success =>
    simp only [PlantControl.step, PlantControl.otaProcessEnds]
    split
    · cases success with
      | true => exact Quiet.of_eq rfl rfl rfl
      | false =>
        refine ⟨rfl, fun hSettled => ?_⟩
        by_cases hState : s.planState = .activateMqtt
        · exact Or.inl (by simp [hState])
        · simpa [Settled, hState] using hSettled
    · exact Quiet.of_eq rfl rfl rfl
  | connected =>
    simp only [PlantControl.step, PlantControl.mqttConnected]
    split
    · exact ⟨rfl, fun _ => Or.inr rfl⟩
    · exact Quiet.of_eq rfl rfl rfl
  | disconnected | updateFw =>
    simp only [PlantControl.step, PlantControl.mqttDisconnected, PlantControl.updateFw]
    split <;> exact Quiet.of_eq rfl rfl rfl
  | post event =>
    simp only [PlantControl.step, PlantControl.post]
    split <;> exact Quiet.of_eq rfl rfl rfl
  | send =>
    rcases PlantControl.mqttSendTask_cases s with ⟨hNext, _⟩ | ⟨_, _, hNext⟩ |
      ⟨_, _, _, _, hNext⟩
    all_goals
      rw [PlantControl.step, hNext]
      exact Quiet.of_eq rfl rfl rfl

/-- Inside of `mqtt_get_cer` no other task moves the plan task on. -/
theorem step_verifying {s : PlantControl} (hInv : s.Inv) (hVerify : s.planState = .verifyMqttCert)
    {action : PlanAction} (hPlan : ∀ response, action ≠ .plan response)
    (hRestart : ∀ erase, action ≠ .restart erase) :
    (s.step action).planState = .verifyMqttCert ∧
      (s.step action).getActiveStart = s.getActiveStart := by
  have hClient : s.client = .absent := by
    by_contra hPresent
    rw [hInv.client hPresent] at hVerify
    cases hVerify
  have hGone : s.client ≠ .alive := by
    rw [hClient]
    nofun
  cases action with
  | plan response => exact absurd rfl (hPlan response)
  | restart erase => exact absurd rfl (hRestart erase)
  | network _ _ => exact ⟨hVerify, rfl⟩
  | otaEnds success =>
    have hIdle : s.ota ≠ .running := fun hRunning => hInv.ota hRunning hVerify
    simp only [PlantControl.step, PlantControl.otaProcessEnds, if_neg hIdle]
    exact ⟨hVerify, trivial⟩
  | connected | disconnected | updateFw =>
    simp only [PlantControl.step, PlantControl.mqttConnected, PlantControl.mqttDisconnected,
      PlantControl.updateFw, if_neg hGone]
    exact ⟨hVerify, trivial⟩
  | post event =>
    simp only [PlantControl.step, PlantControl.post]
    split <;> exact ⟨hVerify, rfl⟩
  | send =>
    rw [PlantControl.step, PlantControl.mqttSendTask, if_neg fun h => h.1 hClient]
    exact ⟨hVerify, rfl⟩

/-! ## The invariant -/

def OneResponse (c : MqttConfig) : Prop :=
  c.certificatePemLink.response = c.clientId.response ∧
    c.privatePemLink.response = c.clientId.response

def Wrote (s : Credentials) (file : Option SavedFile) : Prop :=
  file.map (·.origin) = some ⟨s.calls, s.config.clientId.response⟩

/-- What the call has done when it comes to a stage. -/
def Progress (s : Credentials) : Prop :=
  match s.stage with
  | .idle | .activating | .done => True
  | .savingClientId => OneResponse s.config
  | .gettingCertificate =>
    OneResponse s.config ∧ s.mqttGetState ≠ .cerLink ∧ s.Wrote s.files.clientId
  | .savingCertificate =>
    OneResponse s.config ∧ s.mqttGetState ≠ .cerLink ∧ s.Wrote s.files.clientId ∧
      s.config.certificatePem.response = s.config.clientId.response
  | .gettingPrivate =>
    OneResponse s.config ∧ s.mqttGetState ≠ .cerLink ∧ s.Wrote s.files.clientId ∧
      s.Wrote s.files.certificatePem
  | .savingPrivate =>
    OneResponse s.config ∧ s.mqttGetState ≠ .cerLink ∧ s.Wrote s.files.clientId ∧
      s.Wrote s.files.certificatePem ∧
      s.config.privatePem.response = s.config.clientId.response

structure Inv (s : Credentials) : Prop where
  plant : s.plant.Inv
  certified : s.plant.certified = true ↔ s.files.Complete
  calling : s.stage ≠ .idle →
    s.plant.planState = .verifyMqttCert ∧ s.plant.getActiveStart = false
  found : s.pageNotFound = true → OneResponse s.config
  progress : s.Progress
  key : s.files.privatePem.isSome → s.files.Complete ∧
    (s.stage = .idle ∧ Settled s.plant ∨ s.stage = .done)
  law : s.FilesLaw

theorem boot_inv {files : CredentialFiles} (calls responses : Nat)
    (hKey : files.privatePem.isSome → files.Complete)
    (hLaw : (boot files calls responses).FilesLaw) : (boot files calls responses).Inv where
  plant := PlantControl.boot_inv _
  certified := decide_eq_true_iff
  calling h := absurd rfl h
  found := nofun
  progress := trivial
  key hSaved := ⟨hKey hSaved, Or.inl ⟨rfl, Or.inr (decide_eq_true (hKey hSaved))⟩⟩
  law := hLaw

theorem Inv.restart {s : Credentials} (hInv : s.Inv) (erase : Bool) : (s.restart erase).Inv := by
  rw [Credentials.restart]
  cases erase with
  | true => exact boot_inv _ _ nofun fun h => absurd h.1 nofun
  | false => exact boot_inv _ _ (fun hSaved => (hInv.key hSaved).1) hInv.law

theorem Inv.quiet {s : Credentials} (hInv : s.Inv) {next : PlantControl} (hPlant : next.Inv)
    (hQuiet : Quiet s.plant next)
    (hCalling : s.stage ≠ .idle →
      next.planState = .verifyMqttCert ∧ next.getActiveStart = false) :
    Inv { s with plant := next } where
  plant := hPlant
  certified := by
    rw [hQuiet.certified]
    exact hInv.certified
  calling := hCalling
  found := hInv.found
  progress := hInv.progress
  key hSaved := by
    obtain ⟨hComplete, hStage⟩ := hInv.key hSaved
    exact ⟨hComplete, hStage.imp_left fun h => ⟨h.1, hQuiet.settled h.2⟩⟩
  law := hInv.law

theorem Inv.plantStep {s : Credentials} (hInv : s.Inv) {action : PlanAction}
    (hPlan : ∀ response, action ≠ .plan response) (hRestart : ∀ erase, action ≠ .restart erase) :
    Inv { s with plant := s.plant.step action } := by
  refine hInv.quiet (hInv.plant.step action) (step_quiet s.plant hPlan hRestart) fun hStage => ?_
  obtain ⟨hVerify, hInactive⟩ := hInv.calling hStage
  obtain ⟨hState, hStart⟩ := step_verifying hInv.plant hVerify hPlan hRestart
  exact ⟨hState, hStart.trans hInactive⟩

theorem Inv.no_key {s : Credentials} (hInv : s.Inv) (hIdle : s.stage ≠ .idle)
    (hDone : s.stage ≠ .done) : ¬ s.files.privatePem.isSome := by
  intro hSaved
  rcases (hInv.key hSaved).2 with ⟨hStage, _⟩ | hStage
  · exact hIdle hStage
  · exact hDone hStage

theorem Inv.advance {s next : Credentials} (hInv : s.Inv) (hIdle : s.stage ≠ .idle)
    (hDone : s.stage ≠ .done) (hPlant : ∃ start, next.plant = { s.plant with isStartOta := start })
    (hKey : next.files.privatePem = s.files.privatePem)
    (hFound : next.pageNotFound = true → OneResponse next.config) (hProgress : next.Progress) :
    next.Inv := by
  obtain ⟨start, hPlant⟩ := hPlant
  have hNever : ¬ next.files.privatePem.isSome := by
    rw [hKey]
    exact hInv.no_key hIdle hDone
  have hOpen : s.plant.certified ≠ true := fun hCertified =>
    hInv.no_key hIdle hDone (hInv.certified.mp hCertified).2.2
  refine ⟨?_, ?_, fun _ => ?_, hFound, hProgress, fun hSaved => absurd hSaved hNever,
    fun hComplete => absurd hComplete.2.2 hNever⟩
  · rw [hPlant]
    exact ⟨hInv.plant.ota, hInv.plant.client, hInv.plant.status⟩
  · rw [hPlant]
    exact iff_of_false hOpen fun hComplete => hNever hComplete.2.2
  · rw [hPlant]
    exact hInv.calling hIdle

theorem Inv.planRound {s : Credentials} (hInv : s.Inv) : s.planRound.Inv := by
  unfold Credentials.planRound
  split
  · rename_i hIdle
    split
    · rename_i hCall
      have hNever : ¬ s.files.privatePem.isSome := by
        intro hSaved
        rcases (hInv.key hSaved).2 with ⟨_, hState | hStart⟩ | hDone
        · exact hState hCall.2.2.1
        · rw [hCall.2.2.2] at hStart
          cases hStart
        · rw [hIdle] at hDone
          cases hDone
      exact ⟨hInv.plant, hInv.certified, fun _ => ⟨hCall.2.2.1, hCall.2.2.2⟩, hInv.found, trivial,
        fun hSaved => absurd hSaved hNever, hInv.law⟩
    · rename_i hCall
      refine hInv.quiet (hInv.plant.step (.plan ⟨false, false⟩)) (plantControlTask_quiet hCall)
        fun hStage => absurd hIdle hStage
  · rename_i hDone
    obtain ⟨hVerify, _⟩ := hInv.calling (by rw [hDone]; nofun)
    refine ⟨⟨nofun, fun hClient => ?_, hInv.plant.status⟩, hInv.certified,
      fun h => absurd rfl h, hInv.found, trivial,
      fun hSaved => ⟨(hInv.key hSaved).1, Or.inl ⟨rfl, Or.inl nofun⟩⟩, hInv.law⟩
    rw [hInv.plant.client hClient] at hVerify
    cases hVerify
  · exact hInv

theorem Inv.fail {s : Credentials} (hInv : s.Inv) (hIdle : s.stage ≠ .idle)
    (hDone : s.stage ≠ .done) : s.fail.Inv :=
  hInv.advance hIdle hDone ⟨_, rfl⟩ rfl hInv.found trivial

theorem jsonParserCertificate_cases (message : Option CertificateMessage) (s : Credentials) :
    jsonParserCertificate message s = .none ∨
    jsonParserCertificate message s = some (false, s) ∨
    ∃ start clientId certificatePem privatePem link,
      jsonParserCertificate message s = some (true, { s with
        plant := { s.plant with isStartOta := start }
        config := { s.config with
          clientId := ⟨clientId, s.responses⟩
          certificatePemLink := ⟨certificatePem, s.responses⟩
          privatePemLink := ⟨privatePem, s.responses⟩ }
        otaMessageLink := link }) := by
  unfold jsonParserCertificate
  split
  · exact Or.inr (Or.inl rfl)
  · rename_i message
    split
    · cases message.data with
      | none => exact Or.inr (Or.inl rfl)
      | some data =>
        obtain ⟨clientId, certificatePem, privatePem, newFirmware, urlFirmware,
          hashFirmware⟩ := data
        cases clientId with
        | none => exact Or.inl rfl
        | some clientId =>
        cases certificatePem with
        | none => exact Or.inl rfl
        | some certificatePem =>
        cases privatePem with
        | none => exact Or.inl rfl
        | some privatePem =>
        cases newFirmware with
        | none => exact Or.inl rfl
        | some newFirmware =>
        cases urlFirmware with
        | none => exact Or.inl rfl
        | some urlFirmware =>
        cases hashFirmware with
        | none => exact Or.inl rfl
        | some hashFirmware => exact Or.inr (Or.inr ⟨_, _, _, _, _, rfl⟩)
    · exact Or.inr (Or.inl rfl)

theorem Inv.disconnected {s : Credentials} (hInv : s.Inv) (message : Option CertificateMessage) :
    (s.disconnected message).Inv := by
  unfold Credentials.disconnected
  split
  · rename_i hOpen
    obtain ⟨hClient, hLink⟩ := hOpen
    -- the downloads run under another `mqtt_get_state`
    have hStage : s.stage = .activating := by
      have hProgress := hInv.progress
      unfold Progress at hProgress
      cases hStage : s.stage with
      | activating => rfl
      | gettingCertificate | savingCertificate | gettingPrivate | savingPrivate =>
        rw [hStage] at hProgress
        exact absurd hLink hProgress.2.1
      | idle | savingClientId | done =>
        rw [hStage] at hClient
        exact absurd hClient (by decide)
    have hIdle : s.stage ≠ .idle := by
      rw [hStage]
      nofun
    have hDone : s.stage ≠ .done := by
      rw [hStage]
      nofun
    have progress : ∀ {next : Credentials}, next.stage = s.stage → next.Progress := by
      intro next hNext
      rw [Progress, hNext, hStage]
      trivial
    rcases jsonParserCertificate_cases message { s with responses := s.responses + 1 } with
      hCrash | hFalse | ⟨_, _, _, _, _, hTrue⟩
    · rw [hCrash]
      exact hInv.restart false
    · rw [hFalse]
      exact hInv.advance hIdle hDone ⟨_, rfl⟩ rfl nofun (progress rfl)
    · rw [hTrue]
      exact hInv.advance hIdle hDone ⟨_, rfl⟩ rfl (fun _ => ⟨rfl, rfl⟩) (progress rfl)
  · exact hInv

theorem Inv.performed {s : Credentials} (hInv : s.Inv) (ok : Bool) : (s.performed ok).Inv := by
  unfold Credentials.performed
  split
  · rename_i hStage
    have hIdle : s.stage ≠ .idle := by
      rw [hStage]
      nofun
    have hDone : s.stage ≠ .done := by
      rw [hStage]
      nofun
    split
    · rename_i hOk
      exact hInv.advance hIdle hDone ⟨_, rfl⟩ rfl hInv.found (hInv.found hOk.2)
    · exact hInv.fail hIdle hDone
  · exact hInv

theorem Inv.downloaded {s : Credentials} (hInv : s.Inv) (body : Option (List UInt8)) :
    (s.downloaded body).Inv := by
  have hProgress := hInv.progress
  unfold Progress at hProgress
  unfold Credentials.downloaded
  split
  · rename_i text hStage
    rw [hStage] at hProgress
    obtain ⟨hOne, hLink, hId⟩ := hProgress
    exact hInv.advance (by rw [hStage]; nofun) (by rw [hStage]; nofun) ⟨_, rfl⟩ rfl hInv.found
      ⟨hOne, hLink, hId, hOne.1⟩
  · rename_i text hStage
    rw [hStage] at hProgress
    obtain ⟨hOne, hLink, hId, hCert⟩ := hProgress
    exact hInv.advance (by rw [hStage]; nofun) (by rw [hStage]; nofun) ⟨_, rfl⟩ rfl hInv.found
      ⟨hOne, hLink, hId, hCert, hOne.2⟩
  · rename_i hStage
    exact hInv.fail (by rw [hStage]; nofun) (by rw [hStage]; nofun)
  · rename_i hStage
    exact hInv.fail (by rw [hStage]; nofun) (by rw [hStage]; nofun)
  · exact hInv

theorem Inv.save {s : Credentials} (hInv : s.Inv) : s.save.Inv := by
  have hProgress := hInv.progress
  unfold Progress at hProgress
  unfold Credentials.save
  split
  · rename_i hStage
    rw [hStage] at hProgress
    exact hInv.advance (by rw [hStage]; nofun) (by rw [hStage]; nofun) ⟨_, rfl⟩ rfl hInv.found
      ⟨hProgress, nofun, rfl⟩
  · rename_i hStage
    rw [hStage] at hProgress
    obtain ⟨hOne, _, hId, hResponse⟩ := hProgress
    refine hInv.advance (by rw [hStage]; nofun) (by rw [hStage]; nofun) ⟨_, rfl⟩ rfl hInv.found
      ⟨hOne, nofun, hId, ?_⟩
    rw [Wrote, savedFile, Option.map_some, hResponse]
  · rename_i hStage
    rw [hStage] at hProgress
    obtain ⟨_, _, hId, hCert, hResponse⟩ := hProgress
    have hComplete : CredentialFiles.Complete
        { s.files with privatePem := s.savedFile s.config.privatePem } := by
      refine ⟨?_, ?_, rfl⟩
      · rw [← Option.isSome_map, hId]
        rfl
      · rw [← Option.isSome_map, hCert]
        rfl
    refine ⟨⟨hInv.plant.ota, hInv.plant.client, hInv.plant.status⟩, iff_of_true rfl hComplete,
      fun _ => hInv.calling (by rw [hStage]; nofun), hInv.found, trivial,
      fun _ => ⟨hComplete, Or.inr rfl⟩,
      fun _ => ⟨⟨s.calls, s.config.clientId.response⟩, hId, hCert, ?_⟩⟩
    rw [← hResponse]
    rfl
  · exact hInv

theorem Inv.step {s : Credentials} (hInv : s.Inv) (a : CredentialAction) : (s.step a).Inv := by
  cases a with
  | plant action =>
    cases action with
    | plan response => exact hInv.planRound
    | restart erase => exact hInv.restart erase
    | network _ _ | otaEnds _ | connected | disconnected | updateFw | post _ | send =>
      exact hInv.plantStep (fun _ => nofun) (fun _ => nofun)
  | disconnected message => exact hInv.disconnected message
  | performed ok => exact hInv.performed ok
  | downloaded body => exact hInv.downloaded body
  | save => exact hInv.save

theorem first_inv : first.Inv := boot_inv 0 0 nofun fun h => absurd h.1 nofun

/-- Once all three files exist, nothing but erasing the flash changes them. -/
theorem files_stay {s : Credentials} (hInv : s.Inv) (hComplete : s.files.Complete)
    {a : CredentialAction} (hErase : a ≠ .plant (.restart true)) :
    (s.step a).files = s.files := by
  have hStage : s.stage = .idle ∨ s.stage = .done :=
    (hInv.key hComplete.2.2).2.imp_left And.left
  cases a with
  | plant action =>
    cases action with
    | plan response =>
      rw [step, planRound]
      split
      · split <;> rfl
      · rfl
      · rfl
    | restart erase =>
      cases erase with
      | true => exact absurd rfl hErase
      | false => rfl
    | network _ _ | otaEnds _ | connected | disconnected | updateFw | post _ | send => rfl
  | disconnected message =>
    have hClosed : s.stage ∉ [.activating, .gettingCertificate, .savingCertificate,
        .gettingPrivate, .savingPrivate] := by
      rcases hStage with hStage | hStage <;> rw [hStage] <;> decide
    rw [step, disconnected, if_neg fun h => hClosed h.1]
  | performed ok =>
    rw [step, performed]
    split
    · split <;> rfl
    · rfl
  | downloaded body =>
    change (s.downloaded body).files = s.files
    unfold downloaded
    split <;> rfl
  | save =>
    rcases hStage with hStage | hStage <;> rw [step, save, hStage]

/-! ## The call is one round of the plan task -/

theorem plantControlTask_activates {s : PlantControl} (hCall : Activates s)
    (response : Activation) : s.plantControlTask response =
      if response.hasCert then { s.mqttGetCer response with planState := .activateMqtt }
      else s.mqttGetCer response := by
  obtain ⟨hOta, hNetwork, hVerify, hInactive⟩ := hCall
  rw [PlantControl.plantControlTask, if_pos ⟨hOta, hNetwork⟩, hVerify]
  dsimp only
  rw [if_neg (by rw [hInactive]; nofun)]

theorem call_tracks {s : Credentials} (hIdle : s.stage = .idle) (hLink : s.mqttGetState = .cerLink)
    (hCall : Activates s.plant) (clientId certificateLink privateLink link hash : List UInt8)
    (newFirmware : Int) (certificate key : List UInt8) (response : Activation) :
    (run step s [.plant (.plan response),
      .disconnected (some ⟨1, some ⟨some clientId, some certificateLink, some privateLink,
        some newFirmware, some link, some hash⟩⟩),
      .performed true, .save, .downloaded (some certificate), .save, .downloaded (some key), .save,
      .plant (.plan response)]).plant =
    s.plant.plantControlTask ⟨decide (newFirmware ≠ 0), true⟩ := by
  rw [plantControlTask_activates hCall, if_pos rfl]
  simp [step, planRound, hIdle, hLink, hCall, disconnected, jsonParserCertificate, performed,
    downloaded, save, PlantControl.mqttGetCer]

theorem failed_call_tracks {s : Credentials} (hIdle : s.stage = .idle)
    (hCall : Activates s.plant) (response : Activation) :
    (run step s [.plant (.plan response), .performed false]).plant =
      s.plant.plantControlTask ⟨false, false⟩ := by
  rw [plantControlTask_activates hCall, if_neg (by decide)]
  simp [step, planRound, hIdle, hCall, performed, fail, PlantControl.mqttGetCer]

end Credentials

/-! ## Runs from the first boot -/

/-- Whatever fails and whenever a reset comes: three files that exist are of one call and one
activation response, and they stay until the flash is erased. -/
theorem credentials_of_one_call (actions : List CredentialAction) :
    Always Credentials.step Credentials.FilesLaw .first actions ∧
    Along Credentials.step (fun s a => s.files.Complete → a ≠ .plant (.restart true) →
      (s.step a).files = s.files) .first actions := by
  have hAlways : Always Credentials.step Credentials.Inv .first actions :=
    always_of_kept (fun _ a hInv => hInv.step a) Credentials.first_inv actions
  refine ⟨hAlways.mono fun _ hInv => hInv.law, ?_⟩
  exact along_of_always (J := Credentials.Inv) (fun _ a hInv => hInv.step a)
    (fun _ _ hInv _ hComplete hErase => Credentials.files_stay hInv hComplete hErase)
    Credentials.first_inv hAlways

end FcomGateway
