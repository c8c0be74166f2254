import FcomGateway.JobParsing

/-! # The commands of a job

The loop of `json_parser_gw_job` leaves for `end` behind the first command it recognises. What
stands behind that command is not looked at, although the job is accepted.
-/

namespace FcomGateway

open EventTrace CJson

/-! ## All commands of a payload -/

def addCommand (command : CJson) : Option JobCommand :=
  match command.getObjectItemCaseSensitive (literal "add_sub_devices") with
  | some (.string value) => some (.addSubDevices (syncCodeBytes value))
  | _ => none

def stopCommand (command : CJson) : Option JobCommand :=
  match command.getObjectItemCaseSensitive (literal "stop_add_sub_devices") with
  | some (.bool _) => some .stopAddSubDevices
  | _ => none

def removeCommand (command : CJson) : Option JobCommand :=
  match command.getObjectItemCaseSensitive (literal "remove_sub_devices") with
  | some (.string value) => some (.removeSubDevices (nodeOf value))
  | _ => none

/-- The recognised commands of one object, in the order of the tests. -/
def commandsOf (command : CJson) : List JobCommand :=
  (addCommand command).toList ++ (stopCommand command).toList ++ (removeCommand command).toList

def recognised (items : List CJson) : List JobCommand := items.flatMap commandsOf

/-- The loop body tests the three keys one after the other and takes the first that fits. -/
theorem loopCommand_eq (command : CJson) : loopCommand command = (commandsOf command).head? := by
  have hFirst : ∀ add stop remove : Option JobCommand,
      (add.toList ++ stop.toList ++ remove.toList).head? = add.or (stop.or remove) := by
    intro add stop remove
    cases add <;> cases stop <;> cases remove <;> rfl
  rw [commandsOf, hFirst, loopCommand]
  split
  · rename_i value hAdd
    have hSome : addCommand command = some (.addSubDevices (syncCodeBytes value)) := by
      rw [addCommand, hAdd]
    rw [hSome, Option.some_or]
  · rename_i hAdd
    have hNone : addCommand command = none := by
      rw [addCommand]
      split
      · rename_i value hString
        exact absurd hString (hAdd value)
      · rfl
    rw [hNone, Option.none_or]
    split
    · rename_i value hStop
      have hSome : stopCommand command = some .stopAddSubDevices := by
        rw [stopCommand, hStop]
      rw [hSome, Option.some_or]
    · rename_i hStop
      have hNone : stopCommand command = none := by
        rw [stopCommand]
        split
        · rename_i value hBool
          exact absurd hBool (hStop value)
        · rfl
      rw [hNone, Option.none_or]
      rfl

theorem loopChoice_eq (commands : CJson) :
    loopChoice commands = (recognised (commands.children.map Prod.snd)).head? := by
  rw [recognised, List.head?_flatMap, List.findSome?_map, loopChoice]
  congr 1
  funext child
  exact loopCommand_eq child.2

theorem loopChoice_array (items : List CJson) :
    loopChoice (.array items) = (recognised items).head? := by
  have hItems : (CJson.array items).children.map Prod.snd = items := by
    rw [children, List.map_map]
    exact List.map_id' items
  rw [loopChoice_eq, hItems]

/-- The id and the commands array of a payload with a short `request_id`. -/
def acceptedJob (message : List UInt8) : Option (List UInt8 × List CJson) :=
  (messageTree message).bind fun root =>
    match root.getObjectItem (literal "request_id"), root.getObjectItem (literal "commands") with
    | some (.string value), some (.array items) =>
      if (cString value).length < 50 then some (cString value, items) else none
    | _, _ => none

theorem acceptedJob_eq_some {message id : List UInt8} {items : List CJson}
    (h : acceptedJob message = some (id, items)) :
    ∃ root requestId, messageTree message = some root ∧
      root.getObjectItem (literal "request_id") = some requestId ∧
      root.getObjectItem (literal "commands") = some (.array items) ∧
      copyItem 50 (some requestId) = some id := by
  obtain ⟨root, hRoot, hJob⟩ := Option.bind_eq_some_iff.mp h
  refine ⟨root, ?_⟩
  split at hJob
  · rename_i value items' hId hCommands
    split at hJob
    · rename_i hShort
      obtain ⟨rfl, rfl⟩ := Prod.mk.inj (Option.some.inj hJob)
      refine ⟨.string value, hRoot, hId, hCommands, ?_⟩
      rw [copyItem, valuestring, Option.bind_some, sprintf, if_pos hShort]
    · cases hJob
  · cases hJob

theorem array_no_update (items : List CJson) (name : List UInt8) :
    (CJson.array items).getObjectItem name = none := by
  rw [getObjectItem, children, List.find?_eq_none.mpr, Option.map_none]
  intro child hChild
  obtain ⟨item, _, rfl⟩ := List.mem_map.mp hChild
  simp

theorem jsonParserGwJob_of_tree {message id : List UInt8} {root requestId commands : CJson}
    (hRoot : messageTree message = some root)
    (hId : root.getObjectItem (literal "request_id") = some requestId)
    (hCommands : root.getObjectItem (literal "commands") = some commands)
    (hCopy : copyItem 50 (some requestId) = some id) {c : Option JobCommand}
    (hCommand : jobCommand commands = some c) (hFits : ∀ c' ∈ c, c'.Fits) (s : JobState) :
    jsonParserGwJob s message = some ((run JobCommand.run s c.toList).withJobId id) := by
  rw [jsonParserGwJob_eq, readJob_of_tree hRoot hId, hCommands, Option.elim_some, hCommand,
    Option.bind_some, hCopy, Option.bind_some, dif_pos hFits]
  exact congrArg some (job_run_eq _ s)

theorem jsonParserGwJob_accepted {message id : List UInt8} {items : List CJson}
    (h : acceptedJob message = some (id, items)) (hFits : ∀ c ∈ (recognised items).head?, c.Fits)
    (s : JobState) : jsonParserGwJob s message =
      some ((run JobCommand.run s (recognised items).head?.toList).withJobId id) := by
  obtain ⟨root, requestId, hRoot, hId, hCommands, hCopy⟩ := acceptedJob_eq_some h
  have hCommand : jobCommand (.array items) = some (recognised items).head? := by
    rw [jobCommand_eq, loopChoice_array]
    cases (recognised items).head? with
    | some c => rfl
    | none =>
      rw [array_no_update]
      rfl
  exact jsonParserGwJob_of_tree hRoot hId hCommands hCopy hCommand hFits s

def JobState.commanded (s : JobState) : SensorData × Bool × MasterRfEvent × GwStatus :=
  (s.gateway.sensorData, s.gateway.rfConfigMode, s.gateway.ssStateMachine,
    s.gateway.gatewayData.status)

/-- A job executes the first of its recognised commands and ignores the others. -/
theorem first_command_executed {message id : List UInt8} {items : List CJson}
    (h : acceptedJob message = some (id, items)) (hFits : ∀ c ∈ (recognised items).head?, c.Fits)
    (s : JobState) : ∃ next, jsonParserGwJob s message = some next ∧ next.jobId = id ∧
      next.commanded = (run JobCommand.run s (recognised items).head?.toList).commanded :=
  ⟨_, jsonParserGwJob_accepted h hFits s, rfl, rfl⟩

def twoRemovals : List UInt8 :=
  literal ("\x7b\"request_id\":\"1\",\"commands\":[\x7b\"remove_sub_devices\":\"1\"\x7d," ++
    "\x7b\"remove_sub_devices\":\"2\"\x7d]\x7d")

def twoDetectors : JobState where
  gateway := boot (some { SensorData.zero with maxDetector := 2, deviceActivated := fun _ => 1 })
    false fun _ => 0
  jobId := []
  otaMessageLink := []
  isStartOta := .otaPending

theorem twoRemovals_accepted : ∃ items, acceptedJob twoRemovals = some ([0x31], items) ∧
    recognised items = [.removeSubDevices 1, .removeSubDevices 2] := by
  have hParts : (acceptedJob twoRemovals).map (fun job => (job.1, recognised job.2)) =
      some ([0x31], [.removeSubDevices 1, .removeSubDevices 2]) := by
    decide +kernel
  obtain ⟨⟨id, items⟩, hJob, hPair⟩ := Option.map_eq_some_iff.mp hParts
  obtain ⟨rfl, hCommands⟩ := Prod.mk.inj hPair
  exact ⟨items, hJob, hCommands⟩

theorem first_removal_executed : ∃ items,
    acceptedJob twoRemovals = some ([0x31], items) ∧
    ∃ next, jsonParserGwJob twoDetectors twoRemovals = some next ∧ next.jobId = [0x31] ∧
      next.commanded = (run JobCommand.run twoDetectors (recognised items).head?.toList).commanded
    := by
  obtain ⟨items, hJob, hCommands⟩ := twoRemovals_accepted
  refine ⟨items, hJob, first_command_executed hJob ?_ twoDetectors⟩
  rw [hCommands]
  rintro _ ⟨⟩
  trivial

theorem second_removal_ignored : ¬ ∀ (message id : List UInt8) (items : List CJson)
    (s : JobState), acceptedJob message = some (id, items) →
      (jsonParserGwJob s message).map JobState.commanded =
        some (run JobCommand.run s (recognised items)).commanded := by
  intro h
  obtain ⟨items, hJob, hCommands⟩ := twoRemovals_accepted
  have hFits : ∀ c ∈ (recognised items).head?, c.Fits := by
    rw [hCommands]
    rintro _ ⟨⟩
    trivial
  have hBoth := h twoRemovals [0x31] items twoDetectors hJob
  rw [jsonParserGwJob_accepted hJob hFits, hCommands] at hBoth
  have hSecond := congrArg (Option.map fun view => view.1.deviceActivated 2) hBoth
  revert hSecond
  decide

end FcomGateway
