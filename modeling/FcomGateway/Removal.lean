import FcomGateway.JobCommands

/-! # Removing a detector

The server names a detector by the `sub_id` it was told. A job that sends this text back as
`remove_sub_devices` clears the slot of the detector and nothing else.
-/

namespace FcomGateway

open EventTrace CJson

/-! ## The cleared slot -/

/-- `c` is the lowest activated entry, or 0 when there is none. -/
inductive LowestActivated (activated : Nat → Nat) (c : Nat) : Prop
  | entry (hLeast : IsLeast {i | (1 ≤ i ∧ i ≤ MAX_DECTECTOR) ∧ activated i = 1} c)
  | none (hZero : c = 0) (hFree : ∀ i, 1 ≤ i → i ≤ MAX_DECTECTOR → activated i ≠ 1)

theorem findCurDetector_lowest {d : SensorData} (hMax : d.maxDetector ≠ 0) :
    LowestActivated d.deviceActivated (findCurDetector d) := by
  rw [findCurDetector, if_neg hMax]
  cases hFind : (List.range' 1 MAX_DECTECTOR).find? fun i => d.deviceActivated i = 1 with
  | none =>
    refine .none rfl fun i hLow hHigh hOne => ?_
    have hAll := List.find?_eq_none.mp hFind i (List.mem_range'_1.mpr ⟨hLow, by omega⟩)
    exact hAll (decide_eq_true hOne)
  | some c =>
    obtain ⟨hOne, hRange, hFirst⟩ := List.find?_range'_eq_some.mp hFind
    have hBounds := List.mem_range'_1.mp hRange
    refine .entry ⟨⟨⟨hBounds.1, ?_⟩, of_decide_eq_true hOne⟩, ?_⟩
    · rw [Option.getD_some]
      omega
    · rintro i ⟨⟨hLow, _⟩, hi⟩
      by_contra hBelow
      have hNot := hFirst i hLow (Nat.not_le.mp hBelow)
      rw [decide_eq_true hi] at hNot
      exact Bool.noConfusion hNot

/-- The slot `d` is cleared, and everything else stays but for `curDetector`. -/
structure ErasedSlot (d : Nat) (before after : SensorData) : Prop where
  activated : after.deviceActivated d = 0
  state : after.dtorSensorState d = .normalSt
  battery : after.dtorBatState d = .low
  channel : after.inputChannel = if before.inputChannel = d then 0 else before.inputChannel
  current : LowestActivated after.deviceActivated after.curDetector
  others : ∀ i, i ≠ d → after.deviceActivated i = before.deviceActivated i ∧
    after.dtorSensorState i = before.dtorSensorState i ∧
    after.dtorBatState i = before.dtorBatState i
  syncCode : after.syncCode = before.syncCode
  maxDetector : after.maxDetector = before.maxDetector

theorem erasedSlot_erase {before : SensorData} {d : Nat} (hMax : before.maxDetector ≠ 0) :
    ErasedSlot d before (before.erase d) where
  activated := Function.update_self _ _ _
  state := Function.update_self _ _ _
  battery := Function.update_self _ _ _
  channel := rfl
  current := findCurDetector_lowest hMax
  others _ hi := ⟨Function.update_of_ne hi _ _, Function.update_of_ne hi _ _,
    Function.update_of_ne hi _ _⟩
  syncCode := rfl
  maxDetector := rfl

/-- What the state behind the job is: the table in RAM and in flash have lost the detector `d`. -/
structure Removed (d : Nat) (id : List UInt8) (s next : JobState) : Prop where
  table : ErasedSlot d s.gateway.sensorData next.gateway.sensorData
  file : next.gateway.sensorDataFile = some next.gateway.sensorData
  others : next = { s with
    jobId := id
    gateway := { s.gateway with
      sensorData := next.gateway.sensorData
      sensorDataFile := next.gateway.sensorDataFile
      log := s.gateway.log ++ [.erased d] } }

/-! ## Jobs that remove -/

def removalText (command : CJson) : Option (List UInt8) :=
  match command.getObjectItemCaseSensitive (literal "remove_sub_devices") with
  | some (.string value) => some value
  | _ => none

/-- A job with a short `request_id` whose only command is the removal of `value`. -/
structure RemovalJob (message id value : List UInt8) (root commands : CJson) : Prop where
  tree : messageTree message = some root
  requestId : valuestring (root.getObjectItem (literal "request_id")) = some id
  short : id.length ≤ 49
  member : root.getObjectItem (literal "commands") = some commands
  single : (recognised (commands.children.map Prod.snd)).length = 1
  removal : (commands.children.map Prod.snd).filterMap removalText = [value]

theorem removeCommand_eq (command : CJson) :
    removeCommand command = (removalText command).map fun value =>
      .removeSubDevices (nodeOf value) := by
  rw [removeCommand, removalText]
  cases command.getObjectItemCaseSensitive (literal "remove_sub_devices") with
  | none => rfl
  | some item => cases item <;> rfl

theorem RemovalJob.recognised_eq {message id value : List UInt8} {root commands : CJson}
    (h : RemovalJob message id value root commands) :
    recognised (commands.children.map Prod.snd) = [.removeSubDevices (nodeOf value)] := by
  obtain ⟨c, hSingle⟩ := List.length_eq_one_iff.mp h.single
  have hValue : value ∈ (commands.children.map Prod.snd).filterMap removalText := by
    rw [h.removal]
    exact List.mem_singleton_self value
  obtain ⟨command, hCommand, hText⟩ := List.mem_filterMap.mp hValue
  have hRemove : removeCommand command = some (.removeSubDevices (nodeOf value)) := by
    rw [removeCommand_eq, hText, Option.map_some]
  have hMem : .removeSubDevices (nodeOf value) ∈ recognised (commands.children.map Prod.snd) := by
    refine List.mem_flatMap.mpr ⟨command, hCommand, ?_⟩
    rw [commandsOf, hRemove]
    exact List.mem_append_right _ List.mem_cons_self
  rw [hSingle] at hMem ⊢
  rw [List.mem_singleton.mp hMem]

theorem RemovalJob.run_eq {message id value : List UInt8} {root commands : CJson}
    (h : RemovalJob message id value root commands) (s : JobState) :
    jsonParserGwJob s message = some { s with
      jobId := id
      gateway := removeSubDevices (nodeOf value) s.gateway } := by
  have hCopy : copyItem 50 (root.getObjectItem (literal "request_id")) = some id := by
    have hShort := h.short
    rw [copyItem, h.requestId, Option.bind_some, sprintf, if_pos (by omega)]
  obtain ⟨requestId, hId⟩ : ∃ item, root.getObjectItem (literal "request_id") = some item := by
    refine Option.ne_none_iff_exists'.mp fun hNone => ?_
    rw [hNone] at hCopy
    cases hCopy
  rw [hId] at hCopy
  have hCommand : jobCommand commands = some (some (.removeSubDevices (nodeOf value))) := by
    rw [jobCommand_eq, loopChoice_eq, h.recognised_eq]
    rfl
  rw [jsonParserGwJob_of_tree h.tree hId h.member hCopy hCommand _ s]
  · rfl
  · rintro _ ⟨⟩
    trivial

/-! ## The round trip -/

/-- From every reachable table, the printed address of a detector removes exactly this detector,
and a node that is no detector changes the job id only. -/
theorem remove_round_trip {saved : Option SensorData}
    (hSaved : ∀ t, saved = some t → PreviouslySaved t) (userReset : Bool) (clock : Nat → Int)
    (events : List PowerEvent) {s : JobState}
    (hReached : s.gateway = run powerStep (boot saved userReset clock) events)
    {message id value : List UInt8} {root commands : CJson}
    (hJob : RemovalJob message id value root commands) :
    (∀ (printed : SensorData) (d : Nat), 1 ≤ d → d ≤ s.gateway.sensorData.maxDetector →
      value = subIdText printed (UInt8.ofNat d) →
        ∃ next, jsonParserGwJob s message = some next ∧ Removed d id s next) ∧
    (¬ (1 ≤ nodeOf value ∧ nodeOf value ≤ s.gateway.sensorData.maxDetector) →
      jsonParserGwJob s message = some { s with jobId := id }) := by
  have hTables : ∀ t, saved = some t → IndexTable t := fun t hTable => (hSaved t hTable).indexTable
  have hIndex : IndexInv s.gateway := by
    rw [hReached]
    exact run_invariant (I := IndexInv) (fun _ event h => h.powerStep event)
      (IndexInv.boot hTables userReset clock) events
  rw [hJob.run_eq s]
  constructor
  · intro printed d hLow hHigh hValue
    have hMax : s.gateway.sensorData.maxDetector ≤ 50 := hIndex.tables.table.max
    have hNode : nodeOf value = d := by
      rw [hValue, nodeOf_subIdText, UInt8.toNat_ofNat', Nat.mod_eq_of_lt (by omega)]
    have hRemovable : Removable (d : Int) s.gateway := by
      constructor <;> omega
    refine ⟨_, rfl, ?_⟩
    rw [hNode, removeSubDevices, flashEraseSensorData_pos hRemovable, Int.toNat_natCast]
    exact ⟨erasedSlot_erase (by omega), rfl, rfl⟩
  · intro hOutside
    rw [removeSubDevices, flashEraseSensorData_neg hOutside]

def oneDetector : JobState where
  gateway := run powerStep (boot none false fun _ => 0)
    ((startListening ++ [uartData requestBytes, .rf ⟨false, none⟩, uartData (Report.F.bytes 1)]).map
      .run)
  jobId := []
  otaMessageLink := []
  isStartOta := .otaPending

def removalOfOne : List UInt8 :=
  literal ("\x7b\"request_id\":\"1\",\"commands\":" ++
    "[\x7b\"remove_sub_devices\":\"000.000.000.001\"\x7d]\x7d")

theorem removalOfOne_job : ∃ root commands,
    RemovalJob removalOfOne [0x31] (subIdText .zero 1) root commands := by
  have hParts : (messageTree removalOfOne).map (fun root =>
      (valuestring (root.getObjectItem (literal "request_id")),
        (root.getObjectItem (literal "commands")).map fun commands =>
          ((recognised (commands.children.map Prod.snd)).length,
            (commands.children.map Prod.snd).filterMap removalText))) =
      some (some [0x31], some (1, [subIdText .zero 1])) := by
    decide +kernel
  obtain ⟨root, hRoot, hPair⟩ := Option.map_eq_some_iff.mp hParts
  obtain ⟨hId, hCommands⟩ := Prod.mk.inj hPair
  obtain ⟨commands, hMember, hRemoval⟩ := Option.map_eq_some_iff.mp hCommands
  obtain ⟨hSingle, hValue⟩ := Prod.mk.inj hRemoval
  exact ⟨root, commands, hRoot, hId, by decide, hMember, hSingle, hValue⟩

theorem first_detector_removed : ∃ next,
    jsonParserGwJob oneDetector removalOfOne = some next ∧ Removed 1 [0x31] oneDetector next := by
  obtain ⟨root, commands, hJob⟩ := removalOfOne_job
  have hSaved : ∀ t, (none : Option SensorData) = some t → PreviouslySaved t := by simp
  exact (remove_round_trip hSaved false (fun _ => 0) _ rfl hJob).1 .zero 1 (by decide)
    (by decide +kernel) rfl

end FcomGateway
