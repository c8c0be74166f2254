import FcomGateway.ParsePrefix
import FcomGateway.PlantControl

/-! # Jobs from the server

`json_parser_gw_job` reads a text on its own and does what it asks for. An access to a NULL item or
string and a write behind the end of a buffer have no defined outcome; they are `none` here.
-/

namespace FcomGateway

open EventTrace CJson

/-! ## The C library -/

def strtok (s : List UInt8) : List (List UInt8) :=
  (s.splitOn 0x2E).filter fun token => !token.isEmpty

def isspace (b : UInt8) : Bool := b = 0x20 ∨ (0x09 ≤ b ∧ b ≤ 0x0D)

/-- `strtol` to base 10, which stops at the bounds of a 32-bit `long`. -/
def atoi (s : List UInt8) : Int :=
  let s := s.dropWhile isspace
  let digits := (s.drop (signLength s)).takeWhile isDigit
  let value : Nat := digits.foldl (fun value digit => 10 * value + (digit.toNat - 0x30)) 0
  if s.head? = some 0x2D then max (-2147483648) (-value) else min 2147483647 value

def sprintf (size : Nat) (text : List UInt8) : Option (List UInt8) :=
  if text.length < size then some text else none

/-- What `valuestring` of an accessor's result shows. -/
def valuestring : Option CJson → Option (List UInt8)
  | some (.string value) => some (cString value)
  | _ => none

/-! ## Reading a job -/

inductive JobCommand
  | addSubDevices (code : List UInt8)
  | stopAddSubDevices
  | removeSubDevices (node : Int)
  | updateFw (link : List UInt8)
  deriving DecidableEq, Repr

def JobCommand.Fits : JobCommand → Prop
  | .addSubDevices code => code.length ≤ 3
  | _ => True

instance : DecidablePred JobCommand.Fits
  | .addSubDevices code => inferInstanceAs (Decidable (code.length ≤ 3))
  | .stopAddSubDevices | .removeSubDevices _ | .updateFw _ => isTrue trivial

/-- The bytes that the loop of `add_sub_devices` stores from `sync_code[0]` on. -/
def syncCodeBytes (value : List UInt8) : List UInt8 :=
  (strtok (cString value)).map fun token => UInt8.ofInt (atoi token)

/-- The node that the loop of `remove_sub_devices` leaves behind. -/
def nodeOf (value : List UInt8) : Int := ((strtok (cString value)).getLast?.map atoi).getD 0

def loopCommand (command : CJson) : Option JobCommand :=
  match command.getObjectItemCaseSensitive (literal "add_sub_devices") with
  | some (.string value) => some (.addSubDevices (syncCodeBytes value))
  | _ =>
    match command.getObjectItemCaseSensitive (literal "stop_add_sub_devices") with
    | some (.bool _) => some .stopAddSubDevices
    | _ =>
      match command.getObjectItemCaseSensitive (literal "remove_sub_devices") with
      | some (.string value) => some (.removeSubDevices (nodeOf value))
      | _ => none

def updateFwCommand (updateFw : CJson) : Option JobCommand := do
  let text (name : String) := valuestring (updateFw.getObjectItem (literal name))
  let _ ← (← text "version_number") |> sprintf 50
  let _ ← (← text "version_name") |> sprintf 50
  let link ← (← text "url_firmware") |> sprintf 500
  let _ ← (← text "hash_firmware") |> sprintf 50
  return .updateFw link

/-- The first command of the loop, else `update_fw`. -/
def jobCommand (commands : CJson) : Option (Option JobCommand) :=
  match commands.children.findSome? fun (_, command) => loopCommand command with
  | some command => some (some command)
  | none =>
    match commands.getObjectItem (literal "update_fw") with
    | some updateFw => (updateFwCommand updateFw).map some
    | none => some none

structure Job where
  id : List UInt8
  command : Option JobCommand
  fits : ∀ c ∈ command, c.Fits

/-- What `json_parser_gw_job` takes from a text; without a `request_id` the text is no job. -/
def readJob (message : List UInt8) : Option (Option Job) :=
  match parseWithLength (message.take (message.length % 2 ^ 16)) with
  | none => some none
  | some root =>
    match root.getObjectItem (literal "request_id") with
    | none => some none
    | some requestId => do
      let command ← match root.getObjectItem (literal "commands") with
        | some commands => jobCommand commands
        | none => some none
      let id ← (← valuestring (some requestId)) |> sprintf 50
      if h : ∀ c ∈ command, c.Fits then some (some ⟨id, command, h⟩) else none

/-! ## Doing it -/

/-- The gateway with the variables that only jobs concern. -/
structure JobState where
  gateway : Gateway
  jobId : List UInt8
  otaMessageLink : List UInt8
  isStartOta : OtaState

def JobCommand.run (s : JobState) : JobCommand → JobState
  | .addSubDevices code =>
    let bytes (i : Fin 3) := code.getD i (s.gateway.sensorData.syncCode i)
    { s with gateway := FcomGateway.addSubDevices bytes s.gateway }
  | .stopAddSubDevices => { s with gateway := FcomGateway.stopAddSubDevices s.gateway }
  | .removeSubDevices node => { s with gateway := FcomGateway.removeSubDevices node s.gateway }
  | .updateFw link =>
    { s with
      gateway := FcomGateway.updateFw s.gateway
      otaMessageLink := link
      isStartOta := .otaStart }

/-- The command as an event of the gateway; `sync_code` keeps the bytes that are not written. -/
def JobCommand.event (g : Gateway) : JobCommand → Event
  | .addSubDevices code => .addSub fun i => code.getD i (g.sensorData.syncCode i)
  | .stopAddSubDevices => .stopAddSub
  | .removeSubDevices node => .removeSub node
  | .updateFw _ => .updateFw

theorem run_gateway (c : JobCommand) (s : JobState) :
    (c.run s).gateway = step s.gateway (c.event s.gateway) := by
  cases c <;> rfl

def Job.run (s : JobState) (job : Job) : JobState :=
  { job.command.elim s (JobCommand.run s) with jobId := job.id }

def jsonParserGwJob (s : JobState) (message : List UInt8) : Option JobState :=
  (readJob message).map fun job => job.elim s (Job.run s)

/-! ## Jobs one after the other -/

theorem run_jobId (c : JobCommand) (s : JobState) : (c.run s).jobId = s.jobId := by
  cases c <;> rfl

def JobState.withJobId (s : JobState) (id : List UInt8) : JobState := { s with jobId := id }

theorem run_withJobId (c : JobCommand) (s : JobState) (id : List UInt8) :
    c.run (s.withJobId id) = (c.run s).withJobId id := by
  cases c <;> rfl

theorem run_commands_withJobId (commands : List JobCommand) (s : JobState) (id : List UInt8) :
    run JobCommand.run (s.withJobId id) commands =
      (run JobCommand.run s commands).withJobId id := by
  induction commands generalizing s with
  | nil => rfl
  | cons c rest ih => rw [run_cons, run_cons, run_withJobId, ih]

theorem job_run_eq (job : Job) (s : JobState) :
    job.run s = (run JobCommand.run s job.command.toList).withJobId job.id := by
  rw [Job.run]
  cases job.command <;> rfl

theorem run_jobList (jobs : List Job) (s : JobState) :
    run Job.run s jobs = (run JobCommand.run s (jobs.filterMap Job.command)).withJobId
      ((jobs.getLast?.map Job.id).getD s.jobId) := by
  induction jobs generalizing s with
  | nil => rfl
  | cons job rest ih =>
    have hId : ((job :: rest).getLast?.map Job.id).getD s.jobId =
        (rest.getLast?.map Job.id).getD job.id := by
      rw [List.getLast?_cons]
      cases rest.getLast? <;> rfl
    have hCommands : (job :: rest).filterMap Job.command =
        job.command.toList ++ rest.filterMap Job.command := by
      cases hCommand : job.command with
      | none => exact List.filterMap_cons_none hCommand
      | some c => exact List.filterMap_cons_some hCommand
    rw [run_cons, ih, hId, hCommands, run_append, job_run_eq, run_commands_withJobId]
    rfl

theorem run_commands_jobId (commands : List JobCommand) (s : JobState) :
    (run JobCommand.run s commands).jobId = s.jobId := by
  induction commands generalizing s with
  | nil => rfl
  | cons c rest ih => exact (ih (c.run s)).trans (run_jobId c s)

theorem withJobId_self {s : JobState} {id : List UInt8} (h : s.jobId = id) :
    s.withJobId id = s := by
  subst h
  rfl

theorem jsonParserGwJob_eq (message : List UInt8) (s : JobState) :
    jsonParserGwJob s message =
      (readJob message).map fun job => run Job.run s job.toList := by
  rw [jsonParserGwJob]
  exact Option.map_congr fun job _ => by cases job <;> rfl

/-! ## The bytes behind a job -/

/-- A text that is a job, or leaves the memory, stays what it is when other bytes follow it. -/
theorem readJob_append {message : List UInt8} (hJob : readJob message ≠ some none)
    (more : List UInt8) (hShort : (message ++ more).length < 2 ^ 16) :
    readJob (message ++ more) = readJob message := by
  have hLength : message.length < 2 ^ 16 := by
    rw [List.length_append] at hShort
    omega
  unfold readJob at hJob ⊢
  rw [Nat.mod_eq_of_lt hShort, Nat.mod_eq_of_lt hLength, List.take_length, List.take_length]
  rw [Nat.mod_eq_of_lt hLength, List.take_length] at hJob
  cases hRoot : parseWithLength message with
  | none =>
    rw [hRoot] at hJob
    exact absurd rfl hJob
  | some root =>
    have hNumber : ∀ text, root ≠ .number text := by
      rintro text rfl
      rw [hRoot] at hJob
      exact hJob rfl
    rw [parseWithLength_append hRoot hNumber more]

end FcomGateway
