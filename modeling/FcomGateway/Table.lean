import FcomGateway.System

/-! # Writes to the detector table

`TableStep` lists everything that a task can write into the table in one go, with the guard under
which it does; `watched` is the heartbeat list at that moment. A property of tables that these
writes keep holds of the table in RAM and of the saved table after every event, whatever the run.
-/

namespace FcomGateway

open EventTrace

inductive TableStep (watched : List Dtor) : SensorData → SensorData → Prop
  | report (d : SensorData) (st : SensorState) (bat : Option BatState) (add : Nat)
      (hState : st ≠ .maxSt) (hAdd : 1 ≤ add ∧ add ≤ MAX_DECTECTOR) :
      TableStep watched d (d.record add st bat)
  | wiredReport (d : SensorData) (st : SensorState) (bat : Option BatState)
      (hState : st ≠ .maxSt) (hChannel : d.inputChannel ≠ 0) :
      TableStep watched d (d.record d.inputChannel st bat)
  | prepare (d : SensorData) (c : Nat) (hFree : freeSlot d = some c) :
      TableStep watched d (d.prepare c)
  | confirm (d : SensorData) (idev : Nat) (hLow : 1 ≤ idev) (hHigh : idev ≤ d.curDetector)
      (hFree : d.deviceActivated idev = 0) :
      TableStep watched d { d with
        deviceActivated := Function.update d.deviceActivated idev 1 }
  | wiredSlot (d : SensorData) (c : Nat) (hFree : freeSlot d = some c) :
      TableStep watched d { d.prepare c with
        inputChannel := c
        deviceActivated := Function.update d.deviceActivated c 1
        curDetector := c }
  | erase (d : SensorData) (i : Nat) (hLow : 1 ≤ i) (hHigh : i ≤ d.maxDetector) :
      TableStep watched d (d.erase i)
  | reset (d : SensorData) (c : Nat) (hActive : d.deviceActivated c = 1)
      (hAlarm : d.dtorSensorState c = .alarmSt) :
      TableStep watched d { d with
        dtorSensorState := Function.update d.dtorSensorState c .normalSt }
  | syncCode (d : SensorData) (code : Nat → UInt8) :
      TableStep watched d { d with syncCode := code }
  | expire (d : SensorData) (id : Nat) (hWatched : id ∈ watched.map Dtor.id) :
      TableStep watched d { d with curDetector := id }

structure TableInv (I : SensorData → Prop) (g : Gateway) : Prop where
  table : I g.sensorData
  file : ∀ t, g.sensorDataFile = some t → I t

namespace TableInv

variable {I : SensorData → Prop} {g next : Gateway}

theorem of_eq (h : TableInv I g) (hTable : next.sensorData = g.sensorData)
    (hFile : next.sensorDataFile = g.sensorDataFile) : TableInv I next :=
  ⟨by rw [hTable]; exact h.table, by rw [hFile]; exact h.file⟩

theorem of_step {watched : List Dtor} (hI : ∀ d d', TableStep watched d d' → I d → I d')
    (h : TableInv I g) (hStep : TableStep watched g.sensorData next.sensorData)
    (hFile : next.sensorDataFile = g.sensorDataFile) : TableInv I next :=
  ⟨hI _ _ hStep h.table, by rw [hFile]; exact h.file⟩

theorem save (h : TableInv I g) : TableInv I (flashSaveSensorData g) :=
  ⟨h.table, fun _ hFile => Option.some.inj hFile ▸ h.table⟩

theorem updateRelay (h : TableInv I g) (d : Nat) : TableInv I (updateRelayAlarmState d g) := by
  unfold updateRelayAlarmState
  split <;> exact h.of_eq rfl rfl

theorem recompute (h : TableInv I g) : TableInv I (recomputeAlarmStatus g) := h.of_eq rfl rfl

theorem setAlarm (h : TableInv I g) : TableInv I (setAlarmStatus g) := h.of_eq rfl rfl

theorem postFeedback (h : TableInv I g) (now : Int) :
    TableInv I (FcomGateway.postFeedback now g) :=
  h.of_eq rfl rfl

theorem sendFeedback (h : TableInv I g) (now : Int) :
    TableInv I (FcomGateway.sendFeedback now g) :=
  h.of_eq (sendFeedback_sensorData now g) (sendFeedback_sensorDataFile now g)

theorem foldl {f : Gateway → Nat → Gateway} (hf : ∀ g c, TableInv I g → TableInv I (f g c))
    (cs : List Nat) (h : TableInv I g) : TableInv I (cs.foldl f g) := by
  induction cs generalizing g with
  | nil => exact h
  | cons c cs ih => exact ih (hf g c h)

section Writes

variable {watched : List Dtor} (hI : ∀ d d', TableStep watched d d' → I d → I d')
include hI

theorem registerRequest (h : TableInv I g) : TableInv I (FcomGateway.registerRequest g) := by
  unfold FcomGateway.registerRequest
  split
  · rename_i c hFree
    exact h.of_step hI (.prepare _ c hFree) rfl
  · exact h

theorem branch (h : TableInv I g) (letter : Report) {add : Nat}
    (hAdd : 1 ≤ add ∧ add ≤ MAX_DECTECTOR) : TableInv I (letter.branch add g) := by
  have accepted : ∀ st bat, st ≠ .maxSt → TableInv I (acceptReport letter st bat add g) :=
    fun st bat hState => h.of_step hI (.report _ st bat add hState hAdd) rfl
  cases letter with
  | F => exact ((accepted .alarmSt _ nofun).updateRelay add).setAlarm
  | L => exact (accepted .normalSt _ nofun).recompute
  | E => exact (accepted .errorSt _ nofun).recompute
  | T => exact ((accepted .normalSt _ nofun).updateRelay add).recompute

theorem frames (h : TableInv I g) (list : List Frame)
    (hAdd : ∀ letter add, Frame.report letter add ∈ list → 1 ≤ add ∧ add ≤ MAX_DECTECTOR) :
    TableInv I (list.foldl applyFrame g) := by
  induction list generalizing g with
  | nil => exact h
  | cons frame rest ih =>
    refine ih ?_ fun letter add hMem => hAdd letter add (List.mem_cons_of_mem _ hMem)
    cases frame with
    | request => exact h.registerRequest hI
    | report letter add => exact h.branch hI letter (hAdd letter add List.mem_cons_self)

theorem confirmRegistration (h : TableInv I g) :
    TableInv I (FcomGateway.confirmRegistration g) := by
  rcases confirmRegistration_cases g with hSame | ⟨idev, hLow, hHigh, hFree, hConfirm⟩
  · rw [hSame]
    exact h
  · rw [hConfirm]
    exact h.of_step hI (.confirm _ idev hLow hHigh hFree) rfl

theorem sensorDataHandler (h : TableInv I g) (now : Int) (dtmp : List UInt8) :
    TableInv I (FcomGateway.sensorDataHandler now dtmp g) := by
  unfold FcomGateway.sensorDataHandler
  split
  · rw [scanBuffer_eq]
    have confirmed := (h.frames hI (FcomGateway.frames dtmp) fun _ _ =>
      frames_add_bounds).confirmRegistration hI
    exact confirmed.sendFeedback now
  · exact h

theorem hmiProcess (h : TableInv I g) (reads : PollReads) :
    TableInv I (FcomGateway.hmiProcess reads g) := by
  rcases hmiProcess_cases reads g with ⟨_, b, hIdle⟩ | ⟨_, hRegister⟩ | ⟨hChannel, hReport⟩
  · rw [hIdle]
    exact h.of_eq rfl rfl
  · rw [hRegister, wiredRegister]
    split
    · rename_i c hFree
      exact h.of_step hI (.wiredSlot _ c hFree) rfl
    · exact h.of_eq rfl rfl
  · have normal : ∀ st bat time, st ≠ .maxSt → TableInv I (acceptWired .T st bat
        { g with prevTimeMessageNormal := time }) := fun st bat time hState =>
      h.of_step hI (.wiredReport _ st bat hState hChannel) rfl
    have alarm : ∀ letter st bat time, st ≠ .maxSt → TableInv I (acceptWired letter st bat
        { g with prevTimeMessageAlarm := time }) := fun _ st bat time hState =>
      h.of_step hI (.wiredReport _ st bat hState hChannel) rfl
    rcases hReport with ⟨_, hT⟩ | ⟨_, hF⟩ | ⟨_, hE⟩
    · rw [hT]
      apply TableInv.postFeedback
      exact ((normal .normalSt _ _ (by decide)).updateRelay _).recompute
    · rw [hF]
      apply TableInv.postFeedback
      exact ((alarm _ .alarmSt _ _ (by decide)).updateRelay _).setAlarm
    · rw [hE]
      apply TableInv.postFeedback
      exact (alarm _ .errorSt _ _ (by decide)).recompute

theorem mqttSendTask (h : TableInv I g) : TableInv I (FcomGateway.mqttSendTask g) := by
  have reset : ∀ (g : Gateway) (c : Nat), TableInv I g → TableInv I (resetDetector g c) := by
    intro g c h
    unfold resetDetector
    split
    · rename_i hAlarm
      exact TableInv.save (h.of_step hI (.reset _ c hAlarm.1 hAlarm.2) rfl)
    · exact h
  have upload : ∀ (g : Gateway) (c : Nat), TableInv I g → TableInv I (uploadDetector g c) := by
    intro g c h
    unfold uploadDetector
    split
    · exact TableInv.save (h.of_eq rfl rfl)
    · exact h
  unfold FcomGateway.mqttSendTask
  split
  · split
    · rename_i event rest _
      have taken : TableInv I { g with dataProcess := rest } := h.of_eq rfl rfl
      cases event with
      | gwResetSsState => exact taken.foldl reset _
      | ssUploadDb => exact taken.foldl upload _
      | ssFeedbackFlag => exact TableInv.save (taken.of_eq rfl rfl)
      | _ => exact taken.of_eq rfl rfl
    · exact h
  · exact h

end Writes

theorem step (hI : ∀ d d', TableStep g.heartbeat d d' → I d → I d') (h : TableInv I g)
    (event : Event) : TableInv I (FcomGateway.step g event) := by
  cases event with
  | rf input =>
    rcases rfHandleExtTask_cases input g with
      ⟨now, hHandle⟩ | ⟨_, ⟨mode, hPost⟩ | ⟨mode, count, status, hMove⟩⟩
    · rw [FcomGateway.step, hHandle]
      exact h.sensorDataHandler hI _ _
    · rw [FcomGateway.step, hPost]
      exact h.of_eq rfl rfl
    · rw [FcomGateway.step, hMove]
      exact h.of_eq rfl rfl
  | hmi reads => exact h.hmiProcess hI reads
  | addSub code => exact h.of_step hI (.syncCode _ _) rfl
  | stopAddSub | updateFw | networkType => exact h.of_eq rfl rfl
  | removeSub node =>
    change TableInv I (removeSubDevices node g)
    rcases removeSubDevices_cases node g with ⟨hRemove, hErase⟩ | ⟨_, hSame⟩
    · rw [hErase]
      have erased : TableInv I { g with sensorData := g.sensorData.erase node.toNat } :=
        h.of_step hI (.erase _ _ (by have := hRemove.1; omega) (by have := hRemove.2; omega)) rfl
      exact erased.save.of_eq rfl rfl
    · rw [hSame]
      exact h
  | mqttConnected =>
    obtain ⟨_, _, _, hConnected⟩ := mqttConnected_eq g
    rw [FcomGateway.step, hConnected]
    exact h.of_eq rfl rfl
  | mqttDisconnected => exact h.of_eq rfl rfl
  | mqttSend => exact h.mqttSendTask hI
  | heartbeat now id =>
    simp only [FcomGateway.step, checkHeartbeat]
    split
    · rename_i checker hFind
      split
      · exact h.of_step hI (.expire _ checker.id
          (List.mem_map_of_mem (List.mem_of_find?_eq_some hFind))) rfl
      · exact h
    · exact h

end TableInv

/-! ## Saved tables -/

/-- The tables that some earlier run of the program left in flash. -/
inductive PreviouslySaved : SensorData → Prop
  | of_run (saved : Option SensorData) (hSaved : ∀ t, saved = some t → PreviouslySaved t)
      (userReset : Bool) (clock : Nat → Int) (events : List Event) (t : SensorData)
      (hFile : (run step (boot saved userReset clock) events).sensorDataFile = some t) :
      PreviouslySaved t

theorem boot_tableInv {I : SensorData → Prop} (hZero : I .zero) {saved : Option SensorData}
    (hSaved : ∀ t, saved = some t → I t) (userReset : Bool) (clock : Nat → Int) :
    TableInv I (boot saved userReset clock) := by
  refine ⟨?_, hSaved⟩
  cases saved with
  | none => exact hZero
  | some t => exact hSaved t rfl

/-- The rule for saved tables: what every boot from such a table establishes for the gateway and
every event keeps holds of the tables that the gateway saves. -/
theorem PreviouslySaved.of_gateway {I : SensorData → Prop} {J : Gateway → Prop}
    (hBoot : ∀ saved, (∀ t, saved = some t → I t) →
      ∀ userReset clock, J (boot saved userReset clock))
    (hStep : ∀ g event, J g → J (step g event))
    (hFile : ∀ g, J g → ∀ t, g.sensorDataFile = some t → I t) {t : SensorData}
    (h : PreviouslySaved t) : I t := by
  induction h with
  | of_run saved hSaved userReset clock events t hTable ih =>
    exact hFile _ (run_invariant hStep (hBoot saved ih userReset clock) events) t hTable

/-- What holds of the zero table and is kept by every write holds of every saved table. -/
theorem PreviouslySaved.inv {I : SensorData → Prop} (hZero : I .zero)
    (hI : ∀ watched d d', TableStep watched d d' → I d → I d') {t : SensorData}
    (h : PreviouslySaved t) : I t :=
  h.of_gateway (J := TableInv I) (fun _ hSaved => boot_tableInv hZero hSaved)
    (fun g event hInv => hInv.step (hI g.heartbeat) event) fun _ hInv => hInv.file

/-! ## The wired channel -/

theorem inputChannel_step {watched : List Dtor} {d d' : SensorData} (h : TableStep watched d d')
    (hBound : d.inputChannel ≤ MAX_DECTECTOR) : d'.inputChannel ≤ MAX_DECTECTOR := by
  cases h with
  | wiredSlot c hFree => exact (freeSlot_eq_some.mp hFree).1.2
  | erase i _ _ =>
    change (if d.inputChannel = i then 0 else d.inputChannel) ≤ MAX_DECTECTOR
    split
    · exact Nat.zero_le _
    · exact hBound
  | _ => exact hBound

theorem PreviouslySaved.inputChannel_le {t : SensorData} (h : PreviouslySaved t) :
    t.inputChannel ≤ MAX_DECTECTOR :=
  h.inv (Nat.zero_le _) fun _ _ _ => inputChannel_step

abbrev ChannelInv : Gateway → Prop := TableInv fun t => t.inputChannel ≤ MAX_DECTECTOR

theorem ChannelInv.boot {saved : Option SensorData}
    (hSaved : ∀ t, saved = some t → PreviouslySaved t) (userReset : Bool) (clock : Nat → Int) :
    ChannelInv (boot saved userReset clock) :=
  boot_tableInv (Nat.zero_le _) (fun t ht => (hSaved t ht).inputChannel_le) userReset clock

theorem ChannelInv.step {g : Gateway} (h : ChannelInv g) (event : Event) :
    ChannelInv (step g event) :=
  TableInv.step (fun _ _ => inputChannel_step) h event

end FcomGateway
