import FcomGateway.SubId
import FcomGateway.IndexSafety

/-! # What a job payload may hold

`json_parser_gw_job` tests the types of the three commands of its loop. It reads `request_id` and
the members of `update_fw` without a test.
-/

namespace FcomGateway

open EventTrace CJson

/-- `cJSON_ParseWithLength` of a received text, whose length is passed in 16 bits. -/
def messageTree (message : List UInt8) : Option CJson :=
  parseWithLength (message.take (message.length % 2 ^ 16))

/-! ## The accesses to strings -/

/-- `item->valuestring` is read, or copied to a buffer of that size. -/
inductive JobAccess
  | valuestring (item : Option CJson)
  | sprintf (item : Option CJson) (size : Nat)

/-- The item is there and has a string, and the string fits into the buffer. -/
def JobAccess.Safe : JobAccess → Prop
  | .valuestring item => (FcomGateway.valuestring item).isSome
  | .sprintf item size => (FcomGateway.valuestring item).any fun text => text.length < size

instance : DecidablePred JobAccess.Safe := by
  intro access
  cases access <;> unfold JobAccess.Safe <;> infer_instance

/-- The command of a pass of the loop whose string has passed its test. -/
def passAccesses (command : CJson) : List JobAccess :=
  match loopCommand command with
  | some (.addSubDevices _) =>
    [.valuestring (command.getObjectItemCaseSensitive (literal "add_sub_devices"))]
  | some (.removeSubDevices _) =>
    [.valuestring (command.getObjectItemCaseSensitive (literal "remove_sub_devices"))]
  | _ => []

def updateFwAccesses (updateFw : CJson) : List JobAccess :=
  let item (name : String) := updateFw.getObjectItem (literal name)
  [.sprintf (item "version_number") 50, .valuestring (item "version_number"),
    .sprintf (item "version_name") 50,
    .valuestring (item "url_firmware"), .sprintf (item "url_firmware") 500,
    .valuestring (item "hash_firmware"), .sprintf (item "hash_firmware") 50]

def commandsAccesses (commands : CJson) : List JobAccess :=
  match commands.children.find? fun child => (loopCommand child.2).isSome with
  | some child => passAccesses child.2
  | none => (commands.getObjectItem (literal "update_fw")).elim [] updateFwAccesses

/-- The accesses of a call, in the order of the code; `request_id` is copied at the end. -/
def jobAccesses (message : List UInt8) : List JobAccess :=
  match messageTree message with
  | none => []
  | some root =>
    match root.getObjectItem (literal "request_id") with
    | none => []
    | some requestId =>
      (root.getObjectItem (literal "commands")).elim [] commandsAccesses ++
        [.sprintf (some requestId) 50]

def JobMemorySafe (message : List UInt8) : Prop := ∀ access ∈ jobAccesses message, access.Safe

instance (message : List UInt8) : Decidable (JobMemorySafe message) :=
  inferInstanceAs (Decidable (∀ access ∈ jobAccesses message, _))

/-! ## The payloads that are safe -/

/-- A member that is a string of less than `size` bytes. -/
def FitsMember (size : Nat) (item : Option CJson) : Prop :=
  ∃ value, item = some (.string value) ∧ (cString value).length < size

structure WellFormedUpdate (updateFw : CJson) : Prop where
  versionNumber : FitsMember 50 (updateFw.getObjectItem (literal "version_number"))
  versionName : FitsMember 50 (updateFw.getObjectItem (literal "version_name"))
  urlFirmware : FitsMember 500 (updateFw.getObjectItem (literal "url_firmware"))
  hashFirmware : FitsMember 50 (updateFw.getObjectItem (literal "hash_firmware"))

/-- A payload with a `request_id` has a short string there, and an `update_fw` that is reached
has its four strings. -/
structure WellFormedJob (root : CJson) : Prop where
  requestId : ∀ item, root.getObjectItem (literal "request_id") = some item →
    FitsMember 50 (some item)
  updateFw : ∀ item commands updateFw, root.getObjectItem (literal "request_id") = some item →
    root.getObjectItem (literal "commands") = some commands →
    (∀ child ∈ commands.children, loopCommand child.2 = none) →
    commands.getObjectItem (literal "update_fw") = some updateFw → WellFormedUpdate updateFw

theorem wellFormedJob_of_no_id {root : CJson}
    (hId : root.getObjectItem (literal "request_id") = none) : WellFormedJob root := by
  constructor
  · intro item hItem
    cases hId.symm.trans hItem
  · intro item _ _ hItem
    cases hId.symm.trans hItem

theorem wellFormedJob_iff {root requestId : CJson}
    (hId : root.getObjectItem (literal "request_id") = some requestId) :
    WellFormedJob root ↔ FitsMember 50 (some requestId) ∧
      ∀ commands ∈ root.getObjectItem (literal "commands"),
        (∀ child ∈ commands.children, loopCommand child.2 = none) →
          ∀ updateFw, commands.getObjectItem (literal "update_fw") = some updateFw →
            WellFormedUpdate updateFw := by
  constructor
  · intro h
    exact ⟨h.requestId requestId hId, fun commands hCommands hNone updateFw =>
      h.updateFw requestId commands updateFw hId hCommands hNone⟩
  · rintro ⟨hFits, hUpdates⟩
    refine ⟨fun item hItem => ?_, fun item commands updateFw _ hCommands hNone => ?_⟩
    · rwa [← hItem, hId]
    · exact hUpdates commands hCommands hNone updateFw

theorem safe_sprintf {item : Option CJson} {size : Nat} :
    (JobAccess.sprintf item size).Safe ↔ FitsMember size item := by
  constructor
  · intro h
    rw [JobAccess.Safe, Option.any_eq_true] at h
    obtain ⟨text, hText, hLength⟩ := h
    cases item with
    | none => cases hText
    | some item =>
      cases item with
      | string value =>
        cases hText
        exact ⟨value, rfl, of_decide_eq_true hLength⟩
      | null | bool _ | number _ | array _ | object _ => cases hText
  · rintro ⟨value, rfl, hLength⟩
    exact decide_eq_true hLength

theorem FitsMember.valuestring {item : Option CJson} {size : Nat} (h : FitsMember size item) :
    (JobAccess.valuestring item).Safe := by
  obtain ⟨value, rfl, _⟩ := h
  rfl

theorem updateFwAccesses_safe (updateFw : CJson) :
    (∀ access ∈ updateFwAccesses updateFw, access.Safe) ↔ WellFormedUpdate updateFw := by
  simp only [updateFwAccesses, List.mem_cons, List.not_mem_nil, or_false, forall_eq_or_imp,
    forall_eq, safe_sprintf]
  constructor
  · rintro ⟨hNumber, _, hName, _, hUrl, _, hHash⟩
    exact ⟨hNumber, hName, hUrl, hHash⟩
  · rintro ⟨hNumber, hName, hUrl, hHash⟩
    exact ⟨hNumber, hNumber.valuestring, hName, hUrl.valuestring, hUrl, hHash.valuestring, hHash⟩

theorem loopCommand_cases (command : CJson) :
    loopCommand command = none ∨ loopCommand command = some .stopAddSubDevices ∨
    (∃ value,
      command.getObjectItemCaseSensitive (literal "add_sub_devices") = some (.string value) ∧
      loopCommand command = some (.addSubDevices (syncCodeBytes value))) ∨
    ∃ value,
      command.getObjectItemCaseSensitive (literal "remove_sub_devices") = some (.string value) ∧
      loopCommand command = some (.removeSubDevices (nodeOf value)) := by
  unfold loopCommand
  split
  · rename_i value hAdd
    exact Or.inr (Or.inr (Or.inl ⟨value, hAdd, rfl⟩))
  · split
    · exact Or.inr (Or.inl rfl)
    · split
      · rename_i value hRemove
        exact Or.inr (Or.inr (Or.inr ⟨value, hRemove, rfl⟩))
      · exact Or.inl rfl

/-- What the loop reads has been tested. -/
theorem passAccesses_safe (command : CJson) : ∀ access ∈ passAccesses command, access.Safe := by
  rcases loopCommand_cases command with
    hNone | hStop | ⟨value, hItem, hAdd⟩ | ⟨value, hItem, hRemove⟩
  · simp [passAccesses, hNone]
  · simp [passAccesses, hStop]
  · simp [passAccesses, hAdd, hItem, JobAccess.Safe, valuestring]
  · simp [passAccesses, hRemove, hItem, JobAccess.Safe, valuestring]

theorem commandsAccesses_safe (commands : CJson) :
    (∀ access ∈ commandsAccesses commands, access.Safe) ↔
      ((∀ child ∈ commands.children, loopCommand child.2 = none) →
        ∀ updateFw, commands.getObjectItem (literal "update_fw") = some updateFw →
          WellFormedUpdate updateFw) := by
  unfold commandsAccesses
  cases hFind : commands.children.find? fun child => (loopCommand child.2).isSome with
  | some child =>
    have hFound := List.find?_some hFind
    refine iff_of_true (passAccesses_safe child.2) fun hNone => ?_
    rw [hNone child (List.mem_of_find?_eq_some hFind)] at hFound
    cases hFound
  | none =>
    have hNone : ∀ child ∈ commands.children, loopCommand child.2 = none := by
      intro child hChild
      exact Option.not_isSome_iff_eq_none.mp (List.find?_eq_none.mp hFind child hChild)
    rw [forall_prop_of_true hNone]
    cases hUpdate : commands.getObjectItem (literal "update_fw") with
    | none => simp
    | some updateFw =>
      rw [Option.elim_some, updateFwAccesses_safe]
      simp

/-- A call accesses no missing string and overruns no buffer if and only if its payload is well
formed. -/
theorem jobMemorySafe_iff (message : List UInt8) :
    JobMemorySafe message ↔ ∀ root, messageTree message = some root → WellFormedJob root := by
  unfold JobMemorySafe jobAccesses
  cases hRoot : messageTree message with
  | none => simp
  | some root =>
    simp only [Option.some.injEq, forall_eq']
    cases hId : root.getObjectItem (literal "request_id") with
    | none => exact iff_of_true (fun _ h => absurd h List.not_mem_nil) (wellFormedJob_of_no_id hId)
    | some requestId =>
      simp only [List.forall_mem_append, List.forall_mem_singleton, safe_sprintf]
      rw [wellFormedJob_iff hId, and_comm]
      refine and_congr_right fun _ => ?_
      cases root.getObjectItem (literal "commands") with
      | none => simp
      | some commands => simp [commandsAccesses_safe]

/-! ## The calls with an outcome -/

/-- `sprintf` of the string of an item. -/
def copyItem (size : Nat) (item : Option CJson) : Option (List UInt8) :=
  (valuestring item).bind (sprintf size)

theorem copyItem_isSome {item : Option CJson} {size : Nat} :
    (copyItem size item).isSome ↔ FitsMember size item := by
  rw [← safe_sprintf, JobAccess.Safe, copyItem]
  cases valuestring item with
  | none => simp
  | some text =>
    rw [Option.bind_some, sprintf, Option.any_some, decide_eq_true_eq]
    split
    · rename_i hFits
      exact iff_of_true rfl hFits
    · rename_i hLong
      exact iff_of_false (by simp) hLong

theorem copyItem_eq_some {size : Nat} {item : Option CJson} {text : List UInt8} :
    copyItem size item = some text ↔ FitsMember size item ∧ valuestring item = some text := by
  rw [← safe_sprintf, JobAccess.Safe, copyItem]
  cases valuestring item with
  | none => simp
  | some value =>
    rw [Option.bind_some, sprintf, Option.any_some, decide_eq_true_eq]
    split
    · rename_i hFits
      exact ⟨fun hText => ⟨hFits, hText⟩, And.right⟩
    · rename_i hLong
      exact iff_of_false (fun hText => by cases hText) fun hText => hLong hText.1

theorem FitsMember.copy {item : Option CJson} {size : Nat} (h : FitsMember size item) :
    ∃ text, copyItem size item = some text :=
  Option.isSome_iff_exists.mp (copyItem_isSome.mpr h)

theorem updateFwCommand_eq (updateFw : CJson) : updateFwCommand updateFw =
    (copyItem 50 (updateFw.getObjectItem (literal "version_number"))).bind fun _ =>
    (copyItem 50 (updateFw.getObjectItem (literal "version_name"))).bind fun _ =>
    (copyItem 500 (updateFw.getObjectItem (literal "url_firmware"))).bind fun link =>
    (copyItem 50 (updateFw.getObjectItem (literal "hash_firmware"))).bind fun _ =>
      some (.updateFw link) := by
  simp only [updateFwCommand, copyItem, Option.bind_assoc]
  rfl

theorem updateFwCommand_isSome (updateFw : CJson) :
    (updateFwCommand updateFw).isSome ↔ WellFormedUpdate updateFw := by
  rw [updateFwCommand_eq]
  constructor
  · intro h
    simp only [Option.isSome_bind, Option.any_eq_true] at h
    obtain ⟨number, hNumber, name, hName, link, hLink, hash, hHash, _⟩ := h
    exact ⟨copyItem_isSome.mp (Option.isSome_of_eq_some hNumber),
      copyItem_isSome.mp (Option.isSome_of_eq_some hName),
      copyItem_isSome.mp (Option.isSome_of_eq_some hLink),
      copyItem_isSome.mp (Option.isSome_of_eq_some hHash)⟩
  · rintro ⟨hNumber, hName, hUrl, hHash⟩
    obtain ⟨number, hNumber⟩ := hNumber.copy
    obtain ⟨name, hName⟩ := hName.copy
    obtain ⟨link, hUrl⟩ := hUrl.copy
    obtain ⟨hash, hHash⟩ := hHash.copy
    rw [hNumber, hName, hUrl, hHash]
    rfl

theorem updateFwCommand_fits {updateFw : CJson} {c : JobCommand}
    (h : updateFwCommand updateFw = some c) : c.Fits := by
  simp only [updateFwCommand_eq, Option.bind_eq_some_iff] at h
  obtain ⟨_, _, _, _, link, _, _, _, hCommand⟩ := h
  cases hCommand
  trivial

/-- The first command that the loop recognises. -/
def loopChoice (commands : CJson) : Option JobCommand :=
  commands.children.findSome? fun child => loopCommand child.2

theorem jobCommand_eq (commands : CJson) : jobCommand commands =
    match loopChoice commands with
    | some command => some (some command)
    | none => (commands.getObjectItem (literal "update_fw")).elim (some none) fun updateFw =>
        (updateFwCommand updateFw).map some := by
  have hChoice : loopChoice commands =
      commands.children.findSome? fun child => loopCommand child.2 := rfl
  rw [jobCommand, ← hChoice]
  cases loopChoice commands with
  | some command => rfl
  | none => cases commands.getObjectItem (literal "update_fw") <;> rfl

theorem readJob_of_tree {message : List UInt8} {root requestId : CJson}
    (hRoot : messageTree message = some root)
    (hId : root.getObjectItem (literal "request_id") = some requestId) :
    readJob message =
      ((root.getObjectItem (literal "commands")).elim (some none) jobCommand).bind fun command =>
        (copyItem 50 (some requestId)).bind fun id =>
          if h : ∀ c ∈ command, c.Fits then some (some ⟨id, command, h⟩) else none := by
  rw [messageTree] at hRoot
  simp only [readJob, hRoot, hId, copyItem, Option.bind_assoc]
  cases root.getObjectItem (literal "commands") <;> rfl

theorem loopChoice_eq_none {commands : CJson} :
    loopChoice commands = none ↔ ∀ child ∈ commands.children, loopCommand child.2 = none :=
  List.findSome?_eq_none_iff

theorem jobCommand_fits_iff (commands : CJson) :
    (∃ command, jobCommand commands = some command ∧ ∀ c ∈ command, c.Fits) ↔
      (loopChoice commands = none → ∀ updateFw,
        commands.getObjectItem (literal "update_fw") = some updateFw →
          WellFormedUpdate updateFw) ∧ ∀ c ∈ loopChoice commands, c.Fits := by
  rw [jobCommand_eq]
  cases loopChoice commands with
  | some c => simp
  | none =>
    cases commands.getObjectItem (literal "update_fw") with
    | none => simp
    | some updateFw =>
      simp only [Option.elim_some, Option.some.injEq, forall_eq', ← updateFwCommand_isSome]
      constructor
      · rintro ⟨command, hSome, _⟩
        refine ⟨fun _ => ?_, by simp⟩
        obtain ⟨c, hCommand, _⟩ := Option.map_eq_some_iff.mp hSome
        exact Option.isSome_of_eq_some hCommand
      · rintro ⟨hSome, _⟩
        obtain ⟨c, hCommand⟩ := Option.isSome_iff_exists.mp (hSome trivial)
        refine ⟨some c, by rw [hCommand]; rfl, ?_⟩
        rintro _ ⟨⟩
        exact updateFwCommand_fits hCommand

/-- The code of an `add_sub_devices` that is executed fits into `sync_code`. -/
def CodeFits (message : List UInt8) : Prop :=
  ∀ root, messageTree message = some root → ∀ item commands,
    root.getObjectItem (literal "request_id") = some item →
    root.getObjectItem (literal "commands") = some commands → ∀ c ∈ loopChoice commands, c.Fits

theorem readJob_of_no_id {message : List UInt8}
    (h : ∀ root, messageTree message = some root →
      root.getObjectItem (literal "request_id") = none) : readJob message = some none := by
  unfold messageTree at h
  rw [readJob]
  cases hRoot : parseWithLength (message.take (message.length % 2 ^ 16)) with
  | none => rfl
  | some root =>
    dsimp only
    rw [h root hRoot]

theorem readJob_isSome_of_tree {message : List UInt8} {root requestId : CJson}
    (hRoot : messageTree message = some root)
    (hId : root.getObjectItem (literal "request_id") = some requestId) :
    (readJob message).isSome ↔ FitsMember 50 (some requestId) ∧
      ∃ command, (root.getObjectItem (literal "commands")).elim (some none) jobCommand =
        some command ∧ ∀ c ∈ command, c.Fits := by
  rw [readJob_of_tree hRoot hId, ← copyItem_isSome, Option.isSome_iff_exists,
    Option.isSome_iff_exists]
  simp only [Option.bind_eq_some_iff, Option.dite_none_right_eq_some]
  constructor
  · rintro ⟨job, command, hCommand, id, hCopy, hFits, _⟩
    exact ⟨⟨id, hCopy⟩, command, hCommand, hFits⟩
  · rintro ⟨⟨id, hCopy⟩, command, hCommand, hFits⟩
    exact ⟨_, command, hCommand, id, hCopy, hFits, rfl⟩

/-- A call has an outcome if and only if its payload is well formed and the code fits. -/
theorem readJob_isSome_iff (message : List UInt8) : (readJob message).isSome ↔
    (∀ root, messageTree message = some root → WellFormedJob root) ∧ CodeFits message := by
  unfold CodeFits
  cases hRoot : messageTree message with
  | none =>
    rw [readJob_of_no_id (by simp [hRoot])]
    simp
  | some root =>
    simp only [Option.some.injEq, forall_eq']
    cases hId : root.getObjectItem (literal "request_id") with
    | none =>
      rw [readJob_of_no_id (by simp [hRoot, hId])]
      simp [wellFormedJob_of_no_id hId]
    | some requestId =>
      rw [readJob_isSome_of_tree hRoot hId, wellFormedJob_iff hId, and_assoc]
      refine and_congr_right fun _ => ?_
      cases root.getObjectItem (literal "commands") with
      | none => simp
      | some commands =>
        rw [Option.elim_some, jobCommand_fits_iff, loopChoice_eq_none]
        simp

/-- A `request_id` that is a number has no string to copy. -/
theorem numeric_request_id : ¬ JobMemorySafe (literal "\x7b\"request_id\":1\x7d") := by
  decide +kernel

end FcomGateway
