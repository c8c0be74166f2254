import FcomGateway.OutgoingText
import FcomGateway.Supervision
import FcomGateway.Restart

/-! # Indices into the detector table

The entries of the table are indexed with addresses from the radio, numbers from the server, ids
of the heartbeat list and the counters of a table read from flash; the name tables of the packet
builders are indexed with entries. `accesses` lists the indices that an event uses, in the order
in which the code uses them, and the invariant of the table keeps all of them in range.
-/

namespace FcomGateway

open EventTrace

def SensorState.code : SensorState → Nat
  | .normalSt => 0
  | .alarmSt => 1
  | .errorSt => 2
  | .maxSt => 3

def BatState.code : BatState → Nat
  | .low => 0
  | .middle => 1
  | .high => 2

def GwStatus.code : GwStatus → Nat
  | .normal => 0
  | .addSubDevice => 1
  | .error => 2

def OutgoingText.GwConnectInfo.code : OutgoingText.GwConnectInfo → Nat
  | .ethernet => 0
  | .wifi => 1
  | .sim3G => 2

/-! ## The invariant of the table -/

structure IndexTable (d : SensorData) : Prop where
  cur : d.curDetector ≤ MAX_DECTECTOR
  max : d.maxDetector ≤ MAX_DECTECTOR
  channel : d.inputChannel ≤ MAX_DECTECTOR
  active : d.inputChannel = 0 ∨ d.deviceActivated d.inputChannel = 1
  state : ∀ i, (d.dtorSensorState i).code ≤ SensorState.errorSt.code
  bat : ∀ i, (d.dtorBatState i).code ≤ BatState.high.code

theorem indexTable_zero : IndexTable .zero where
  cur := Nat.zero_le _
  max := Nat.zero_le _
  channel := Nat.zero_le _
  active := Or.inl rfl
  state _ := Nat.zero_le _
  bat _ := Nat.zero_le _

theorem BatState.code_le (b : BatState) : b.code ≤ BatState.high.code := by
  cases b <;> decide

theorem SensorState.code_le {st : SensorState} (h : st ≠ .maxSt) :
    st.code ≤ SensorState.errorSt.code := by
  cases st with
  | maxSt => exact absurd rfl h
  | normalSt | alarmSt | errorSt => decide

theorem code_update {state : Nat → SensorState}
    (h : ∀ i, (state i).code ≤ SensorState.errorSt.code) (c : Nat) {st : SensorState}
    (hState : st ≠ .maxSt) (i : Nat) :
    (Function.update state c st i).code ≤ SensorState.errorSt.code := by
  by_cases hi : i = c
  · rw [hi, Function.update_self]
    exact SensorState.code_le hState
  · rw [Function.update_of_ne hi]
    exact h i

theorem findCurDetector_le (d : SensorData) : findCurDetector d ≤ MAX_DECTECTOR := by
  unfold findCurDetector
  split
  · exact Nat.zero_le _
  · cases hFind : (List.range' 1 MAX_DECTECTOR).find? fun i => d.deviceActivated i = 1 with
    | none => exact Nat.zero_le _
    | some c =>
      have hRange := List.mem_range'_1.mp (List.mem_of_find?_eq_some hFind)
      rw [Option.getD_some]
      omega

theorem IndexTable.prepare {d : SensorData} (h : IndexTable d) {c : Nat}
    (hSlot : c ≤ MAX_DECTECTOR) : IndexTable (d.prepare c) where
  cur := h.cur
  max := by
    change (if d.maxDetector < c then c else d.maxDetector) ≤ MAX_DECTECTOR
    split
    · exact hSlot
    · exact h.max
  channel := h.channel
  active := h.active
  state := code_update h.state c nofun
  bat _ := BatState.code_le _

theorem indexTable_step {watched : List Dtor} (hWatched : ∀ id ∈ watched.map Dtor.id,
    id ≤ MAX_DECTECTOR) {d d' : SensorData} (hStep : TableStep watched d d')
    (h : IndexTable d) : IndexTable d' := by
  have hActive : ChannelActive d' := channelActive_step hStep h.active
  cases hStep with
  | report st bat add hState hAdd =>
    exact ⟨hAdd.2, h.max, h.channel, hActive, code_update h.state add hState,
      fun _ => BatState.code_le _⟩
  | wiredReport st bat hState hChannel =>
    exact ⟨h.channel, h.max, h.channel, hActive, code_update h.state _ hState,
      fun _ => BatState.code_le _⟩
  | prepare c hFree => exact h.prepare (freeSlot_eq_some.mp hFree).1.2
  | confirm idev hLow hHigh hFree => exact ⟨h.cur, h.max, h.channel, hActive, h.state, h.bat⟩
  | wiredSlot c hFree =>
    have hSlot := (freeSlot_eq_some.mp hFree).1.2
    have hPrepared := h.prepare hSlot
    exact ⟨hSlot, hPrepared.max, hSlot, hActive, hPrepared.state, hPrepared.bat⟩
  | erase i hLow hHigh =>
    have hStep : TableStep watched d (d.erase i) := .erase d i hLow hHigh
    exact ⟨findCurDetector_le _, h.max, inputChannel_step hStep h.channel, hActive,
      code_update h.state i nofun, fun _ => BatState.code_le _⟩
  | reset c hOne hAlarm =>
    exact ⟨h.cur, h.max, h.channel, hActive, code_update h.state c nofun, h.bat⟩
  | syncCode code => exact ⟨h.cur, h.max, h.channel, hActive, h.state, h.bat⟩
  | expire id hId => exact ⟨hWatched id hId, h.max, h.channel, hActive, h.state, h.bat⟩

/-! ## The accesses of an event -/

inductive Access
  | entry (index : Nat)
  | name (size : Nat) (code : Nat)
  deriving DecidableEq, Repr

/-- The arrays of the table have `MAX_DECTECTOR + 1` entries, a name table has its own size. -/
def Access.InRange : Access → Prop
  | .entry index => index < MAX_DECTECTOR + 1
  | .name size code => code < size

def entries (cs : List Nat) : List Access := cs.map .entry

/-- The entries that a loop from 1 to `n` looks at until one passes the test. -/
def scanned (test : Nat → Bool) (n : Nat) : List Nat :=
  (List.range' 1 n).takeWhile (fun c => !test c) ++ ((List.range' 1 n).find? test).toList

/-- The accesses of a loop whose body changes the gateway. -/
def loopAccesses {α : Type} (body : Gateway → α → Gateway)
    (accesses : Gateway → α → List Access) : Gateway → List α → List Access
  | _, [] => []
  | g, a :: rest => accesses g a ++ loopAccesses body accesses (body g a) rest

/-- The entries that a report writes and reads: its own, that of the relay, and all of them when
the alarm flag is computed again. -/
def Report.accesses (letter : Report) (add : Nat) : List Access :=
  match letter with
  | .F => entries [add, add]
  | .L => entries [add, add] ++ entries (List.range' 1 MAX_DECTECTOR)
  | .E => entries [add] ++ entries (List.range' 1 MAX_DECTECTOR)
  | .T => entries [add, add, add] ++ entries (List.range' 1 MAX_DECTECTOR)

def slotAccesses (d : SensorData) : List Access :=
  entries (scanned (fun c => d.deviceActivated c = 0) MAX_DECTECTOR)

def frameAccesses (g : Gateway) : Frame → List Access
  | .request => slotAccesses g.sensorData ++
      (freeSlot g.sensorData).toList.flatMap fun c => entries [c, c]
  | .report letter add => letter.accesses add

def isRegister2ServerAccesses (num : Nat) (g : Gateway) : List Access :=
  if MAX_DECTECTOR + 1 < num ∨ num < 1 then []
  else
    entries (scanned (fun idev =>
      g.sensorData.deviceActivated idev = 0 ∧ g.isRegisterSensor ≠ false) num)

def sensorDataHandlerAccesses (dtmp : List UInt8) (g : Gateway) : List Access :=
  loopAccesses applyFrame frameAccesses g (frames dtmp) ++
    if (scanBuffer dtmp g).isSensorFeedback then
      isRegister2ServerAccesses (scanBuffer dtmp g).sensorData.curDetector (scanBuffer dtmp g)
    else []

def hmiProcessAccesses (reads : PollReads) (g : Gateway) : List Access :=
  match pollAction reads g with
  | some .register => slotAccesses g.sensorData ++
      (freeSlot g.sensorData).toList.flatMap fun c => entries [c, c, c]
  | some (.report letter) => letter.accesses g.sensorData.inputChannel
  | none => []

/-- `json_packet_message_sensor_data` looks up the names of both entries. -/
def sensorDataPacketAccesses (d : SensorData) (subId : Nat) : List Access :=
  [.entry subId, .name 4 (d.dtorSensorState subId).code,
    .entry subId, .name 3 (d.dtorBatState subId).code]

def resetDetectorAccesses (g : Gateway) (c : Nat) : List Access :=
  entries [c] ++
    if g.sensorData.deviceActivated c = 1 then
      entries [c] ++
        if g.sensorData.dtorSensorState c = .alarmSt then
          entries [c] ++ sensorDataPacketAccesses (resetDetector g c).sensorData c
        else []
    else []

def uploadDetectorAccesses (g : Gateway) (c : Nat) : List Access :=
  entries [c] ++
    if g.sensorData.deviceActivated c = 1 then sensorDataPacketAccesses g.sensorData c else []

/-- `connect_info` is set by tasks that the state leaves out, so each of its values is listed. -/
def connectInfoAccesses : List Access :=
  [OutgoingText.GwConnectInfo.ethernet, .wifi, .sim3G].map fun info => .name 3 info.code

def handleDataEventAccesses (event : DataEvent) (g : Gateway) : List Access :=
  match event with
  | .gwResetSsState => loopAccesses resetDetector resetDetectorAccesses g
      (List.range' 1 g.sensorData.maxDetector)
  | .ssUploadDb => loopAccesses uploadDetector uploadDetectorAccesses g
      (List.range' 1 g.sensorData.maxDetector)
  | .ssFeedbackFlag => sensorDataPacketAccesses g.sensorData g.sensorData.curDetector
  | .gwFeedbackFlag =>
    [.name 3 g.gatewayData.status.code, .name 3 BatState.high.code] ++ connectInfoAccesses
  | .ssErrorFlag => [.name 4 SensorState.normalSt.code, .name 3 BatState.high.code]
  | .jobRequestedFeedbackFlag | .ssRegisterServer | .jobRequestedOta | .gwAddSubDeviceFlag => []

def mqttSendTaskAccesses (g : Gateway) : List Access :=
  if g.gatewayData.mqttStatus then
    match g.dataProcess with
    | event :: rest => handleDataEventAccesses event { g with dataProcess := rest }
    | [] => []
  else []

/-- `flash_erase_sensor_data` clears three entries, then `find_curDetector` looks for a detector
that is left. -/
def removeSubDevicesAccesses (node : Int) (g : Gateway) : List Access :=
  if Removable node g then
    entries [node.toNat, node.toNat, node.toNat] ++
      entries (scanned (fun i => (g.sensorData.erase node.toNat).deviceActivated i = 1)
        MAX_DECTECTOR)
  else []

def accesses (g : Gateway) : Event → List Access
  | .rf input => sensorDataHandlerAccesses (received input g) g
  | .hmi reads => hmiProcessAccesses reads g
  | .removeSub node => removeSubDevicesAccesses node g
  | .mqttSend => mqttSendTaskAccesses g
  | _ => []

/-- `flash_read_sensor_data` prints the table, with name tables of three entries each. -/
def flashReadAccesses (d : SensorData) : List Access :=
  entries (List.range' 1 d.maxDetector) ++
  (List.range' 1 d.maxDetector).flatMap (fun i => [.entry i, .name 3 (d.dtorSensorState i).code]) ++
  (List.range' 1 d.maxDetector).flatMap fun i => [.entry i, .name 3 (d.dtorBatState i).code]

/-- Boot reads the saved table, then starts the heartbeats of the registered detectors. -/
def bootAccesses (saved : Option SensorData) : List Access :=
  saved.toList.flatMap flashReadAccesses ++
    entries (List.range' 1 (saved.getD .zero).maxDetector)

def powerAccesses (g : Gateway) : PowerEvent → List Access
  | .run event => accesses g event
  | .reset _ _ => bootAccesses g.sensorDataFile

/-! ## Accesses in range -/

def AllInRange (list : List Access) : Prop := ∀ a ∈ list, a.InRange

theorem AllInRange.nil : AllInRange [] := nofun

theorem AllInRange.cons {a : Access} {list : List Access} (h : a.InRange)
    (h' : AllInRange list) : AllInRange (a :: list) :=
  List.forall_mem_cons.mpr ⟨h, h'⟩

theorem AllInRange.append {first second : List Access} (h : AllInRange first)
    (h' : AllInRange second) : AllInRange (first ++ second) :=
  fun a hMem => (List.mem_append.mp hMem).elim (h a) (h' a)

theorem allInRange_flatMap {α : Type} {list : List α} {f : α → List Access}
    (h : ∀ a ∈ list, AllInRange (f a)) : AllInRange (list.flatMap f) := by
  intro access hMem
  obtain ⟨a, ha, hAccess⟩ := List.mem_flatMap.mp hMem
  exact h a ha access hAccess

theorem allInRange_entries {cs : List Nat} (h : ∀ c ∈ cs, c ≤ MAX_DECTECTOR) :
    AllInRange (entries cs) := by
  intro a hMem
  obtain ⟨c, hc, rfl⟩ := List.mem_map.mp hMem
  exact Nat.lt_succ_of_le (h c hc)

theorem allInRange_loop {n : Nat} (h : n ≤ MAX_DECTECTOR) :
    AllInRange (entries (List.range' 1 n)) := by
  refine allInRange_entries fun c hc => ?_
  have hRange := List.mem_range'_1.mp hc
  omega

theorem allInRange_scanned {n : Nat} (h : n ≤ MAX_DECTECTOR) (test : Nat → Bool) :
    AllInRange (entries (scanned test n)) := by
  refine allInRange_entries fun c hc => ?_
  have hMem : c ∈ List.range' 1 n := by
    rcases List.mem_append.mp hc with hTaken | hFound
    · exact (List.takeWhile_prefix _).subset hTaken
    · exact List.mem_of_find?_eq_some (Option.mem_toList.mp hFound)
  have hRange := List.mem_range'_1.mp hMem
  omega

theorem allInRange_loopAccesses {α : Type} {body : Gateway → α → Gateway}
    {accesses : Gateway → α → List Access} {P : Gateway → Prop} {list : List α}
    (hBody : ∀ g a, P g → P (body g a))
    (hAccess : ∀ g, ∀ a ∈ list, P g → AllInRange (accesses g a)) {g : Gateway} (h : P g) :
    AllInRange (loopAccesses body accesses g list) := by
  induction list generalizing g with
  | nil => exact nofun
  | cons a rest ih =>
    have hRest := ih (fun g b hb => hAccess g b (List.mem_cons_of_mem a hb)) (hBody g a h)
    exact (hAccess g a List.mem_cons_self h).append hRest

theorem Report.accesses_inRange (letter : Report) {add : Nat} (h : add ≤ MAX_DECTECTOR) :
    AllInRange (letter.accesses add) := by
  have own : ∀ n, AllInRange (entries (List.replicate n add)) := fun n =>
    allInRange_entries fun c hc => (List.eq_of_mem_replicate hc).trans_le h
  have all := allInRange_loop (le_refl MAX_DECTECTOR)
  cases letter with
  | F => exact own 2
  | L => exact (own 2).append all
  | E => exact (own 1).append all
  | T => exact (own 3).append all

theorem slotAccesses_inRange (d : SensorData) : AllInRange (slotAccesses d) :=
  allInRange_scanned (le_refl MAX_DECTECTOR) _

theorem freeSlot_accesses_inRange (d : SensorData) (n : Nat) :
    AllInRange ((freeSlot d).toList.flatMap fun c => entries (List.replicate n c)) := by
  refine allInRange_flatMap fun c hc => allInRange_entries fun c' hc' => ?_
  rw [List.eq_of_mem_replicate hc']
  exact (freeSlot_eq_some.mp (Option.mem_toList.mp hc)).1.2

theorem sensorDataHandlerAccesses_inRange {g : Gateway} (h : IndexTable g.sensorData)
    (dtmp : List UInt8) : AllInRange (sensorDataHandlerAccesses dtmp g) := by
  have hCur : (scanBuffer dtmp g).sensorData.curDetector ≤ MAX_DECTECTOR := by
    rw [scanBuffer_eq, (frames_reporter _ _).1]
    cases hLast : lastAdd (frames dtmp) with
    | none => exact h.cur
    | some d => exact (lastAdd_bounds hLast).2
  refine AllInRange.append ?_ ?_
  · refine allInRange_loopAccesses (P := fun _ => True) (fun _ _ _ => trivial) ?_ trivial
    intro g frame hFrame _
    cases frame with
    | request =>
      exact (slotAccesses_inRange _).append (freeSlot_accesses_inRange g.sensorData 2)
    | report letter add => exact letter.accesses_inRange (frames_add_bounds hFrame).2
  · split
    · unfold isRegister2ServerAccesses
      split
      · exact nofun
      · exact allInRange_scanned hCur _
    · exact nofun

theorem hmiProcessAccesses_inRange {g : Gateway} (h : IndexTable g.sensorData)
    (reads : PollReads) : AllInRange (hmiProcessAccesses reads g) := by
  unfold hmiProcessAccesses
  split
  · exact (slotAccesses_inRange _).append (freeSlot_accesses_inRange g.sensorData 3)
  · exact Report.accesses_inRange _ h.channel
  · exact nofun

/-! ### The packets -/

def NamesInRange (d : SensorData) : Prop :=
  (∀ i, (d.dtorSensorState i).code ≤ SensorState.errorSt.code) ∧
    ∀ i, (d.dtorBatState i).code ≤ BatState.high.code

theorem sensorDataPacketAccesses_inRange {d : SensorData} (h : NamesInRange d) {subId : Nat}
    (hSub : subId ≤ MAX_DECTECTOR) : AllInRange (sensorDataPacketAccesses d subId) := by
  have hState : (d.dtorSensorState subId).code < 4 := (h.1 subId).trans_lt (by decide)
  have hBat : (d.dtorBatState subId).code < 3 := (h.2 subId).trans_lt (by decide)
  have hEntry : subId < MAX_DECTECTOR + 1 := Nat.lt_succ_of_le hSub
  exact .cons hEntry (.cons hState (.cons hEntry (.cons hBat .nil)))

theorem resetDetector_names {g : Gateway} (h : NamesInRange g.sensorData) (c : Nat) :
    NamesInRange (resetDetector g c).sensorData := by
  unfold resetDetector
  split
  · exact ⟨code_update h.1 c nofun, h.2⟩
  · exact h

theorem uploadDetector_names {g : Gateway} (h : NamesInRange g.sensorData) (c : Nat) :
    NamesInRange (uploadDetector g c).sensorData := by
  unfold uploadDetector
  split <;> exact h

theorem connectInfoAccesses_inRange : AllInRange connectInfoAccesses := by
  intro access hAccess
  obtain ⟨info, -, rfl⟩ := List.mem_map.mp hAccess
  change info.code < 3
  cases info <;> decide

theorem handleDataEventAccesses_inRange {g : Gateway} (h : IndexTable g.sensorData)
    (event : DataEvent) : AllInRange (handleDataEventAccesses event g) := by
  have hNames : NamesInRange g.sensorData := ⟨h.state, h.bat⟩
  have inLoop : ∀ c ∈ List.range' 1 g.sensorData.maxDetector, c ≤ MAX_DECTECTOR := by
    intro c hc
    have hRange := List.mem_range'_1.mp hc
    have hMax := h.max
    omega
  have inEntry : ∀ c ∈ List.range' 1 g.sensorData.maxDetector, AllInRange (entries [c]) := by
    intro c hc
    refine allInRange_entries fun c' hc' => ?_
    rw [List.mem_singleton.mp hc']
    exact inLoop c hc
  cases event with
  | gwResetSsState =>
    refine allInRange_loopAccesses (P := fun g => NamesInRange g.sensorData)
      (fun _ c hg => resetDetector_names hg c) ?_ hNames
    intro g c hc hg
    refine (inEntry c hc).append ?_
    split
    · refine (inEntry c hc).append ?_
      split
      · exact (inEntry c hc).append
          (sensorDataPacketAccesses_inRange (resetDetector_names hg c) (inLoop c hc))
      · exact nofun
    · exact nofun
  | ssUploadDb =>
    refine allInRange_loopAccesses (P := fun g => NamesInRange g.sensorData)
      (fun _ c hg => uploadDetector_names hg c) ?_ hNames
    intro g c hc hg
    refine (inEntry c hc).append ?_
    split
    · exact sensorDataPacketAccesses_inRange hg (inLoop c hc)
    · exact nofun
  | ssFeedbackFlag => exact sensorDataPacketAccesses_inRange hNames h.cur
  | gwFeedbackFlag =>
    have hStatus : g.gatewayData.status.code < 3 := by
      cases g.gatewayData.status <;> decide
    have hBat : BatState.high.code < 3 := by decide
    exact .cons hStatus (.cons hBat connectInfoAccesses_inRange)
  | ssErrorFlag =>
    have hState : SensorState.normalSt.code < 4 := by decide
    have hBat : BatState.high.code < 3 := by decide
    exact .cons hState (.cons hBat .nil)
  | jobRequestedFeedbackFlag | ssRegisterServer | jobRequestedOta | gwAddSubDeviceFlag =>
    exact nofun

theorem removeSubDevicesAccesses_inRange {g : Gateway} (h : IndexTable g.sensorData)
    (node : Int) : AllInRange (removeSubDevicesAccesses node g) := by
  unfold removeSubDevicesAccesses
  split
  · rename_i hRemove
    have hMax := h.max
    have hNode : node.toNat ≤ MAX_DECTECTOR := by
      have hHigh := hRemove.2
      omega
    refine AllInRange.append (allInRange_entries fun c hc => ?_)
      (allInRange_scanned (le_refl MAX_DECTECTOR) _)
    rw [List.eq_of_mem_replicate (n := 3) hc]
    exact hNode
  · exact nofun

theorem accesses_inRange {g : Gateway} (h : IndexTable g.sensorData) (event : Event) :
    AllInRange (accesses g event) := by
  cases event with
  | rf input => exact sensorDataHandlerAccesses_inRange h _
  | hmi reads => exact hmiProcessAccesses_inRange h reads
  | removeSub node => exact removeSubDevicesAccesses_inRange h node
  | mqttSend =>
    simp only [accesses, mqttSendTaskAccesses]
    split
    · split
      · rename_i event rest _
        exact handleDataEventAccesses_inRange (g := { g with dataProcess := rest }) h event
      · exact nofun
    · exact nofun
  | addSub _ | stopAddSub | updateFw | mqttConnected | mqttDisconnected | heartbeat _ _
  | networkType => exact nofun

theorem bootAccesses_inRange {saved : Option SensorData}
    (h : ∀ t, saved = some t → IndexTable t) : AllInRange (bootAccesses saved) := by
  have inLoop : ∀ {d : SensorData}, IndexTable d → ∀ i ∈ List.range' 1 d.maxDetector,
      i < MAX_DECTECTOR + 1 := by
    intro d hd i hi
    have hRange := List.mem_range'_1.mp hi
    have hMax := hd.max
    omega
  have read : ∀ d, IndexTable d → AllInRange (flashReadAccesses d) := by
    intro d hd
    refine ((allInRange_loop hd.max).append ?_).append ?_
    · refine allInRange_flatMap fun i hi => ?_
      have hState : (d.dtorSensorState i).code < 3 := (hd.state i).trans_lt (by decide)
      exact .cons (inLoop hd i hi) (.cons hState .nil)
    · refine allInRange_flatMap fun i hi => ?_
      have hBat : (d.dtorBatState i).code < 3 := (hd.bat i).trans_lt (by decide)
      exact .cons (inLoop hd i hi) (.cons hBat .nil)
  have hMax : (saved.getD .zero).maxDetector ≤ MAX_DECTECTOR := by
    cases saved with
    | none => exact Nat.zero_le _
    | some t => exact (h t rfl).max
  have hRead : AllInRange (saved.toList.flatMap flashReadAccesses) :=
    allInRange_flatMap fun d hd => read d (h d (Option.mem_toList.mp hd))
  exact hRead.append (allInRange_loop hMax)

/-! ## The ids of the heartbeat list -/

def IdsInRange (list : List Dtor) : Prop := ∀ id ∈ list.map Dtor.id, id ≤ MAX_DECTECTOR

theorem IdsInRange.addState {list : List Dtor} (h : IdsInRange list) {id : Nat}
    (hId : id ≤ MAX_DECTECTOR) (now : Int) : IdsInRange (Heartbeat.addState id now list) := by
  unfold IdsInRange
  rw [Heartbeat.addState_ids]
  split
  · exact h
  · exact List.forall_mem_cons.mpr ⟨hId, h⟩

theorem IdsInRange.popState {list : List Dtor} (h : IdsInRange list) (id : Nat) :
    IdsInRange (Heartbeat.popState id list) := by
  intro other hMem
  exact h other ((List.eraseP_sublist.map Dtor.id).subset hMem)

theorem idsInRange_step {g : Gateway} (hIdle : g.isSensorFeedback = false)
    (hTable : IndexTable g.sensorData) (h : IdsInRange g.heartbeat) (event : Event) :
    IdsInRange (step g event).heartbeat := by
  cases event with
  | rf input =>
    rcases rfHandleExtTask_cases input g with
      ⟨now, hHandle⟩ | ⟨_, ⟨mode, hPost⟩ | ⟨mode, count, status, hMove⟩⟩
    · rw [step, hHandle, sensorDataHandler_heartbeat now _ hIdle]
      cases hLast : lastAdd (frames (received input g)) with
      | none => exact h
      | some d => exact h.addState (lastAdd_bounds hLast).2 now
    · rw [step, hPost]
      exact h
    · rw [step, hMove]
      exact h
  | hmi reads =>
    have wired := h.addState hTable.channel reads.addTime
    rcases hmiProcess_cases reads g with
      ⟨_, b, hSame⟩ | ⟨_, hRegister⟩ | ⟨_, ⟨_, hStep⟩ | ⟨_, hStep⟩ | ⟨_, hStep⟩⟩
    · rw [step, hSame]
      exact h
    · rw [step, hRegister, wiredRegister]
      split
      · rename_i c hFree
        exact h.addState (freeSlot_eq_some.mp hFree).1.2 reads.addTime
      · exact h
    · rw [step, hStep, wiredT, updateRelayAlarmState_eq]
      exact wired
    · rw [step, hStep, wiredF, updateRelayAlarmState_eq]
      exact wired
    · rw [step, hStep]
      exact wired
  | addSub _ | stopAddSub | updateFw | networkType | mqttDisconnected => exact h
  | removeSub node =>
    rcases removeSubDevices_cases node g with ⟨_, hErase⟩ | ⟨_, hSame⟩
    · rw [step, hErase]
      exact h
    · rw [step, hSame]
      exact h
  | mqttConnected =>
    obtain ⟨_, _, _, hConnected⟩ := mqttConnected_eq g
    rw [step, hConnected]
    exact h
  | mqttSend =>
    rcases mqttSendTask_cases g with hSame | ⟨event, rest, _, hHandle⟩
    · rw [step, hSame]
      exact h
    · obtain ⟨_, _, _, _, hSend, _⟩ := handleDataEvent_sends event { g with dataProcess := rest }
      rw [step, hHandle, hSend]
      exact h
  | heartbeat now id =>
    simp only [step, checkHeartbeat]
    split
    · split
      · exact h.popState _
      · exact h
    · exact h

theorem idsInRange_initHeartbeat {d : SensorData} (h : d.maxDetector ≤ MAX_DECTECTOR)
    (clock : Nat → Int) : IdsInRange (initHeartbeat d clock) := by
  suffices hLoop : ∀ (iters : List Nat) (list : List Dtor), (∀ i ∈ iters, i ≤ MAX_DECTECTOR) →
      IdsInRange list → IdsInRange (iters.foldl (fun list iter =>
        if d.deviceActivated iter = 1 then Heartbeat.addState iter (clock iter) list
        else list) list) by
    refine hLoop _ [] (fun i hi => ?_) nofun
    have hRange := List.mem_range'_1.mp hi
    omega
  intro iters
  induction iters with
  | nil => exact fun _ _ hList => hList
  | cons iter iters ih =>
    intro list hIters hList
    rw [List.foldl_cons]
    apply ih _ fun i hi => hIters i (List.mem_cons_of_mem iter hi)
    split
    · exact hList.addState (hIters iter List.mem_cons_self) (clock iter)
    · exact hList

/-! ## Runs -/

structure IndexInv (g : Gateway) : Prop where
  tables : TableInv IndexTable g
  watched : IdsInRange g.heartbeat
  idle : g.isSensorFeedback = false

theorem IndexInv.boot {saved : Option SensorData} (h : ∀ t, saved = some t → IndexTable t)
    (userReset : Bool) (clock : Nat → Int) : IndexInv (boot saved userReset clock) := by
  have hTables := boot_tableInv indexTable_zero h userReset clock
  exact ⟨hTables, idsInRange_initHeartbeat hTables.table.max clock, rfl⟩

theorem IndexInv.step {g : Gateway} (h : IndexInv g) (event : Event) : IndexInv (step g event) :=
  ⟨h.tables.step (fun _ _ => indexTable_step h.watched) event,
    idsInRange_step h.idle h.tables.table h.watched event, step_isSensorFeedback h.idle event⟩

theorem IndexInv.powerStep {g : Gateway} (h : IndexInv g) (event : PowerEvent) :
    IndexInv (powerStep g event) := by
  cases event with
  | run event => exact h.step event
  | reset userReset clock =>
    have hBoot := IndexInv.boot h.tables.file userReset clock
    exact ⟨⟨hBoot.tables.table, hBoot.tables.file⟩, hBoot.watched, hBoot.idle⟩

theorem PreviouslySaved.indexTable {t : SensorData} (h : PreviouslySaved t) : IndexTable t :=
  h.of_gateway (J := IndexInv) (fun _ hSaved => IndexInv.boot hSaved)
    (fun _ event hInv => hInv.step event) fun _ hInv => hInv.tables.file

/-- In every run from a restored table, resets included, the counters and entries of the table
stay in range, and so does every index that an event or a boot uses. -/
theorem index_safe {saved : Option SensorData} (hSaved : ∀ t, saved = some t → PreviouslySaved t)
    (userReset : Bool) (clock : Nat → Int) (events : List PowerEvent) :
    AllInRange (bootAccesses saved) ∧
    Always powerStep (fun g => IndexTable g.sensorData) (boot saved userReset clock) events ∧
    Along powerStep (fun g event => AllInRange (powerAccesses g event))
      (boot saved userReset clock) events := by
  have hTables : ∀ t, saved = some t → IndexTable t := fun t hTable => (hSaved t hTable).indexTable
  have hAlways : Always powerStep IndexInv (boot saved userReset clock) events :=
    always_of_kept (I := IndexInv) (fun _ event h => h.powerStep event)
      (IndexInv.boot hTables userReset clock) events
  refine ⟨bootAccesses_inRange hTables, hAlways.mono fun g h => h.tables.table, ?_⟩
  refine along_of_always (J := fun _ => True) (fun _ _ _ => trivial) ?_ trivial hAlways
  rintro g (event | ⟨userReset, clock⟩) _ h
  · exact accesses_inRange h.tables.table event
  · exact bootAccesses_inRange h.tables.file

/-- A registration, a report of the highest address and a reset. -/
theorem index_safe_report_and_reset :
    AllInRange (bootAccesses none) ∧
    Always powerStep (fun g => IndexTable g.sensorData) (boot none false fun _ => 0)
      ((startListening ++ [uartData requestBytes, .rf ⟨false, none⟩,
        uartData (Report.F.bytes 50)]).map .run ++ [.reset false fun _ => 0]) ∧
    Along powerStep (fun g event => AllInRange (powerAccesses g event))
      (boot none false fun _ => 0)
      ((startListening ++ [uartData requestBytes, .rf ⟨false, none⟩,
        uartData (Report.F.bytes 50)]).map .run ++ [.reset false fun _ => 0]) :=
  index_safe (by simp) false (fun _ => 0) _

end FcomGateway
