import FcomGateway.JobParsing

/-! # The job of a detector

`json_parser_ss_job` takes the address of a detector apart into `sync_code` and the number of its
node. The token with the number 0 goes where the last one goes.
-/

namespace FcomGateway

open CJson

def messageItem (message : List UInt8) (name : String) : Option CJson :=
  (messageTree message).bind fun root => root.getObjectItem (literal name)

structure SubIdTokens where
  syncCode : Nat → UInt8
  ssNodeId : UInt8

def SubIdTokens.store (num : Nat) (token : List UInt8) (s : SubIdTokens) : SubIdTokens :=
  if 0 < num ∧ num < 3 then
    { s with syncCode := Function.update s.syncCode num (UInt8.ofInt (atoi token)) }
  else { s with ssNodeId := UInt8.ofInt (atoi token) }

/-- The loop from the token with the number `num` on. -/
def SubIdTokens.read : Nat → List (List UInt8) → SubIdTokens → SubIdTokens
  | _, [], s => s
  | num, token :: rest, s => read (num + 1) rest (s.store num token)

structure SsJobResult where
  state : JobState
  ssNodeId : UInt8
  status : Bool

def JobState.withSyncCode (s : JobState) (code : Nat → UInt8) : JobState :=
  { s with gateway := { s.gateway with
      sensorData := { s.gateway.sensorData with syncCode := code } } }

/-- The text of `sub_id`, where it is a string, is read before `request_id` is copied. -/
def jsonParserSsJob (s : JobState) (message : List UInt8) : Option SsJobResult :=
  match messageItem message "request_id" with
  | none => some ⟨s, 0, false⟩
  | some requestId =>
    let start : SubIdTokens := ⟨s.gateway.sensorData.syncCode, 0⟩
    let tokens := (valuestring (messageItem message "sub_id")).elim start fun text =>
      SubIdTokens.read 0 (strtok text) start
    (copyItem 50 (some requestId)).map fun id =>
      ⟨(s.withSyncCode tokens.syncCode).withJobId id, tokens.ssNodeId, true⟩

/-! ## The loop -/

/-- No token reaches `sync_code[0]`, nor an entry behind the three. -/
theorem read_syncCode_frame {i : Nat} (hi : i = 0 ∨ 3 ≤ i) (num : Nat)
    (tokens : List (List UInt8)) (s : SubIdTokens) :
    (SubIdTokens.read num tokens s).syncCode i = s.syncCode i := by
  induction tokens generalizing num s with
  | nil => rfl
  | cons token rest ih =>
    rw [SubIdTokens.read, ih, SubIdTokens.store]
    split
    · exact Function.update_of_ne (by omega) _ _
    · rfl

theorem jsonParserSsJob_frame {i : Nat} (hi : i = 0 ∨ 3 ≤ i) {s : JobState}
    {message : List UInt8} {result : SsJobResult} (h : jsonParserSsJob s message = some result) :
    result.state.gateway.sensorData.syncCode i = s.gateway.sensorData.syncCode i := by
  rw [jsonParserSsJob] at h
  cases hRequest : messageItem message "request_id" with
  | none =>
    rw [hRequest] at h
    cases h
    rfl
  | some requestId =>
    rw [hRequest] at h
    obtain ⟨id, _, hResult⟩ := Option.map_eq_some_iff.mp h
    rw [← hResult]
    cases valuestring (messageItem message "sub_id") with
    | none => rfl
    | some text => exact read_syncCode_frame hi 0 (strtok text) _

theorem read_printed (first second third subId : UInt8) (s : SubIdTokens) :
    SubIdTokens.read 0 ([first, second, third, subId].map threeDigits) s =
      ⟨Function.update (Function.update s.syncCode 1 second) 2 third, subId⟩ := by
  have hAtoi (b : UInt8) : UInt8.ofInt (atoi (threeDigits b)) = b := by
    rw [atoi_threeDigits, ofInt_toNat]
  simp [SubIdTokens.read, SubIdTokens.store, hAtoi]

/-! ## The address -/

/-- The call ends with the bytes of the address in `sync_code` and in `ss_node_id`. -/
def DecodesAddress (s : JobState) (message : List UInt8) (d : SensorData) (subId : UInt8) :
    Prop :=
  ∃ result, jsonParserSsJob s message = some result ∧
    (∀ i < 3, result.state.gateway.sensorData.syncCode i = d.syncCode i) ∧
    result.ssNodeId = subId

theorem jsonParserSsJob_eq {message id : List UInt8} {requestId : CJson} {d : SensorData}
    {subId : UInt8} (hSubId : valuestring (messageItem message "sub_id") = some (subIdText d subId))
    (hRequest : messageItem message "request_id" = some requestId)
    (hCopy : copyItem 50 (some requestId) = some id) (s : JobState) :
    jsonParserSsJob s message = some ⟨(s.withSyncCode (Function.update (Function.update
      s.gateway.sensorData.syncCode 1 (d.syncCode 1)) 2 (d.syncCode 2))).withJobId id, subId,
      true⟩ := by
  rw [jsonParserSsJob, hRequest]
  dsimp only
  rw [hCopy, hSubId, Option.elim_some, Option.map_some, subIdText, strtok_dotted, read_printed]

/-- The byte that the loop leaves out is the right one already, or nothing is to be read. -/
def AddressKnown (s : JobState) (message : List UInt8) (d : SensorData) (subId : UInt8) : Prop :=
  FitsMember 50 (messageItem message "request_id") ∧
      s.gateway.sensorData.syncCode 0 = d.syncCode 0 ∨
    messageItem message "request_id" = none ∧
      (∀ i < 3, s.gateway.sensorData.syncCode i = d.syncCode i) ∧ subId = 0

theorem decodesAddress_iff {message : List UInt8} {d : SensorData} {subId : UInt8}
    (hSubId : valuestring (messageItem message "sub_id") = some (subIdText d subId))
    (s : JobState) : DecodesAddress s message d subId ↔ AddressKnown s message d subId := by
  unfold DecodesAddress AddressKnown
  cases hRequest : messageItem message "request_id" with
  | none =>
    have hResult : jsonParserSsJob s message = some ⟨s, 0, false⟩ := by
      rw [jsonParserSsJob, hRequest]
    simp [hResult, FitsMember, eq_comm]
  | some requestId =>
    rw [← copyItem_isSome]
    cases hCopy : copyItem 50 (some requestId) with
    | none =>
      have hResult : jsonParserSsJob s message = none := by
        rw [jsonParserSsJob, hRequest]
        dsimp only
        rw [hCopy, Option.map_none]
      simp [hResult]
    | some id =>
      rw [jsonParserSsJob_eq hSubId hRequest hCopy]
      constructor
      · rintro ⟨result, hResult, hCode, _⟩
        cases hResult
        exact Or.inl ⟨rfl, hCode 0 (by decide)⟩
      · rintro (⟨_, hFirst⟩ | ⟨hNone, _⟩)
        · refine ⟨_, rfl, fun i hi => ?_, rfl⟩
          rcases i with _ | _ | _ | i
          · exact hFirst
          · rfl
          · rfl
          · omega
        · cases hNone

def freshJobState : JobState where
  gateway := boot none false fun _ => 0
  jobId := []
  otaMessageLink := []
  isStartOta := .otaPending

def plantTable : SensorData := { SensorData.zero with syncCode := fun i => UInt8.ofNat (i + 1) }

def ssJobMessage : List UInt8 :=
  literal "\x7b\"request_id\":\"7\",\"sub_id\":\"001.002.003.004\"\x7d"

theorem first_byte_lost :
    valuestring (messageItem ssJobMessage "sub_id") = some (subIdText plantTable 4) ∧
      ¬ DecodesAddress freshJobState ssJobMessage plantTable 4 := by
  refine ⟨by decide +kernel, ?_⟩
  rintro ⟨result, hResult, hCode, _⟩
  have hKept := jsonParserSsJob_frame (.inl rfl) hResult
  rw [hCode 0 (by decide)] at hKept
  revert hKept
  decide

theorem known_byte_kept :
    DecodesAddress (freshJobState.withSyncCode fun _ => 1) ssJobMessage plantTable 4 :=
  (decodesAddress_iff (by decide +kernel) _).mpr
    (.inl ⟨copyItem_isSome.mp (by decide +kernel), rfl⟩)

end FcomGateway
