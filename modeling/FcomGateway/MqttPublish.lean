import FcomGateway.MqttRoundTrip

/-! # Sending a published message

`esp_mqtt_client_publish` sends the output buffer first and then, through the same buffer, what is
left of the payload. How much of the payload has gone out it tells from the offset that the
message keeps, and this offset is set for messages only that did not fit.
-/

namespace FcomGateway.Mqtt

open Varint

/-- The outcome of some writes, the bytes that went out, and what later writes will return. -/
structure Sent where
  ok : Bool
  bytes : List UInt8
  later : List Int

/-- `esp_mqtt_write` with the values that `esp_transport_write` returns; behind them it times
out. -/
def espMqttWrite : List Int → List UInt8 → Sent
  | [], data => ⟨data.isEmpty, [], []⟩
  | wlen :: rest, data =>
    if data = [] then ⟨true, [], wlen :: rest⟩
    else if wlen ≤ 0 then ⟨false, [], rest⟩
    else
      let next := espMqttWrite rest (data.drop wlen.toNat)
      { next with bytes := data.take wlen.toNat ++ next.bytes }

/-- The rounds of the loop behind the first one; a buffer that holds a header is not empty. -/
def sendRest (bufferLength : Nat) (returns : List Int) (rest : List UInt8) : Sent :=
  if _h : rest = [] ∨ bufferLength = 0 then ⟨true, [], returns⟩
  else
    let piece := espMqttWrite returns (rest.take bufferLength)
    if piece.ok then
      let next := sendRest bufferLength piece.later (rest.drop bufferLength)
      { next with bytes := piece.bytes ++ next.bytes }
    else piece
termination_by rest.length
decreasing_by
  have hSome := List.length_pos_iff.mpr fun hEmpty => _h (Or.inl hEmpty)
  have hRoom := Nat.pos_of_ne_zero fun hNone => _h (Or.inr hNone)
  rw [List.length_drop]
  omega

def MqttConnection.settle (c : MqttConnection) (offset : Int) : MqttConnection :=
  { c with message :=
    { c.message with fragmentedMsgTotalLength := 0, fragmentedMsgDataOffset := offset } }

/-- The loop of `esp_mqtt_client_publish`; `none` is a copy from before the payload. -/
def sendMessage (returns : List Int) (c : MqttConnection) (data : List UInt8) :
    Option Sent × MqttConnection :=
  let first := espMqttWrite returns c.message.data
  if first.ok then
    let dataSent := c.message.data.length - c.message.fragmentedMsgDataOffset
    if data.length - dataSent ≤ 0 then (some first, c.settle 0)
    else if dataSent < 0 then (none, c.settle 0)
    else
      let next := sendRest c.bufferLength first.later (data.drop dataSent.toNat)
      (some { next with bytes := first.bytes ++ next.bytes }, c.settle 0)
  else (some first, c.settle c.message.fragmentedMsgDataOffset)

/-- `mqtt_enqueue` and `mqtt_enqueue_oversized` -/
def queuedMessage (c : MqttConnection) (data : List UInt8) : List UInt8 :=
  if c.message.fragmentedMsgTotalLength = 0 then c.message.data
  else
    let firstFragment := c.message.data.length - c.message.fragmentedMsgDataOffset
    c.message.data ++ data.drop firstFragment.toNat

/-- `mqtt_client_enqueue_priv` on the output buffer: the identifier, where it is not -1. There may
be no memory for the item of the outbox. -/
def clientEnqueue (random : MessageId) (memory store : Bool) (c : MqttConnection)
    (topic data : List UInt8) (qos retain : Nat) : Option Nat × MqttConnection :=
  let (c, msgId) := mqttMsgPublish random c topic data qos retain
  if c.message.data = [] then (none, c)
  else if qos > 0 ∨ store then
    if memory then
      (some msgId, { c with message := { c.message with fragmentedMsgTotalLength := 0 } })
    else (none, c)
  else (some msgId, c)

/-- `esp_mqtt_client_publish` with what the writes return, where the client is connected. -/
def clientPublish (random : MessageId) (memory : Bool) (online : Option (List Int))
    (c : MqttConnection) (topic data : List UInt8) (qos retain : Nat) :
    Option Sent × MqttConnection :=
  match clientEnqueue random memory false c topic data qos retain with
  | (none, c) => (some ⟨false, [], []⟩, c)
  | (some _, c) =>
    match online with
    | none => (some ⟨false, [], []⟩, c.settle c.message.fragmentedMsgDataOffset)
    | some returns => sendMessage returns c data

/-! ## Writes -/

theorem espMqttWrite_isPrefix (returns : List Int) (data : List UInt8) :
    (espMqttWrite returns data).bytes <+: data ∧
      ((espMqttWrite returns data).ok = true → (espMqttWrite returns data).bytes = data) := by
  induction returns generalizing data with
  | nil =>
    refine ⟨List.nil_prefix, fun hOk => ?_⟩
    exact (List.isEmpty_iff.mp hOk).symm
  | cons wlen rest ih =>
    rw [espMqttWrite]
    by_cases hEmpty : data = []
    · rw [if_pos hEmpty]
      exact ⟨List.nil_prefix, fun _ => hEmpty.symm⟩
    · rw [if_neg hEmpty]
      split
      · exact ⟨List.nil_prefix, nofun⟩
      · obtain ⟨hPrefix, hAll⟩ := ih (data.drop wlen.toNat)
        have hWhole := List.take_append_drop wlen.toNat data
        constructor
        · have hLonger := (List.prefix_append_right_inj (data.take wlen.toNat)).mpr hPrefix
          rwa [hWhole] at hLonger
        · intro hOk
          dsimp only
          rw [hAll hOk, hWhole]

theorem espMqttWrite_once {data : List UInt8} (hSome : data ≠ []) (returns : List Int) :
    espMqttWrite ((data.length : Int) :: returns) data = ⟨true, data, returns⟩ := by
  have hPos := List.length_pos_iff.mpr hSome
  rw [espMqttWrite, if_neg hSome, if_neg (by omega), Int.toNat_natCast, List.take_length,
    List.drop_length]
  cases returns with
  | nil => simp [espMqttWrite]
  | cons => simp [espMqttWrite]

theorem sendRest_isPrefix {bufferLength : Nat} (hRoom : bufferLength ≠ 0) (returns : List Int)
    (rest : List UInt8) : (sendRest bufferLength returns rest).bytes <+: rest ∧
      ((sendRest bufferLength returns rest).ok = true →
        (sendRest bufferLength returns rest).bytes = rest) := by
  fun_induction sendRest bufferLength returns rest with
  | case1 returns rest hEnd =>
    refine ⟨List.nil_prefix, fun _ => ?_⟩
    exact (hEnd.resolve_right hRoom).symm
  | case2 returns rest hMore piece hOk next ih =>
    have hPiece : piece.bytes = rest.take bufferLength := (espMqttWrite_isPrefix _ _).2 hOk
    have hWhole := List.take_append_drop bufferLength rest
    constructor
    · have hLonger := (List.prefix_append_right_inj (rest.take bufferLength)).mpr ih.1
      rwa [hWhole, ← hPiece] at hLonger
    · intro hAll
      dsimp only
      rw [hPiece, ih.2 hAll, hWhole]
  | case3 returns rest hMore piece hFailed =>
    refine ⟨(espMqttWrite_isPrefix _ _).1.trans (List.take_prefix _ _), fun hOk => ?_⟩
    exact absurd hOk hFailed

/-! ## Publishing -/

namespace Publish

variable {p : Publish} {random : MessageId} {c : MqttConnection} {returns : List Int}

/-- What went out is a part of the message, and all of it when no write failed. -/
def Delivered (p : Publish) : Option Sent → Prop
  | none => False
  | some s => s.bytes <+: p.bytes 0 ∧ (s.ok = true → s.bytes = p.bytes 0)

theorem bytes_ne_nil (p : Publish) (dup : Nat) : p.bytes dup ≠ [] := List.cons_ne_nil _ _

theorem sendMessage_failed (hFailed : ¬ (espMqttWrite returns c.message.data).ok = true)
    (data : List UInt8) : sendMessage returns c data =
      (some (espMqttWrite returns c.message.data),
        c.settle c.message.fragmentedMsgDataOffset) := by
  rw [sendMessage]
  exact if_neg hFailed

theorem sendMessage_fits (hData : c.message.data = p.bytes 0)
    (hSent : (p.data.length : Int) ≤
      c.message.data.length - c.message.fragmentedMsgDataOffset) :
    p.Delivered (sendMessage returns c p.data).1 := by
  obtain ⟨hPrefix, hAll⟩ := espMqttWrite_isPrefix returns c.message.data
  rw [hData] at hPrefix hAll
  by_cases hOk : (espMqttWrite returns c.message.data).ok = true
  · rw [sendMessage, if_pos hOk, if_pos (by omega), hData]
    exact ⟨hPrefix, hAll⟩
  · rw [sendMessage_failed hOk, hData]
    exact ⟨hPrefix, hAll⟩

/-- The message that does not fit: the rest of the payload follows what the buffer had of it. -/
theorem sendMessage_oversized {k : Nat} (hRoom : c.bufferLength ≠ 0) (hk : k < p.data.length)
    (hData : c.message.data = (p.bytes 0).take (p.dataStart + k))
    (hOffset : c.message.fragmentedMsgDataOffset = p.dataStart) :
    p.Delivered (sendMessage returns c p.data).1 := by
  obtain ⟨hPrefix, hAll⟩ := espMqttWrite_isPrefix returns c.message.data
  have hLength : c.message.data.length = p.dataStart + k := by
    rw [hData, List.length_take, p.bytes_length]
    omega
  have hWhole : c.message.data ++ p.data.drop k = p.bytes 0 := by
    have hDrop : p.data.drop k = (p.bytes 0).drop (p.dataStart + k) := by
      rw [← List.drop_drop, p.data_bytes]
    rw [hData, hDrop, List.take_append_drop]
  by_cases hOk : (espMqttWrite returns c.message.data).ok = true
  · have hSent : (c.message.data.length : Int) - c.message.fragmentedMsgDataOffset = k := by
      rw [hLength, hOffset]
      omega
    rw [sendMessage, if_pos hOk, hSent, if_neg (by omega), if_neg (by omega), Int.toNat_natCast,
      hAll hOk]
    obtain ⟨hRestPrefix, hRestAll⟩ := sendRest_isPrefix hRoom
      (espMqttWrite returns c.message.data).later (p.data.drop k)
    refine ⟨?_, fun hDone => ?_⟩
    · have hLonger := (List.prefix_append_right_inj c.message.data).mpr hRestPrefix
      rwa [hWhole] at hLonger
    · dsimp only
      rw [hRestAll hDone, hWhole]
  · rw [sendMessage_failed hOk]
    refine ⟨hPrefix.trans ?_, fun hDone => absurd hDone hOk⟩
    rw [hData]
    exact List.take_prefix _ _

def built (p : Publish) (c : MqttConnection) : MqttConnection :=
  { c with message :=
    { data := p.bytes 0
      fragmentedMsgTotalLength := 0
      fragmentedMsgDataOffset :=
        c.message.fragmentedMsgDataOffset - (5 - headerLength p.body : Nat) } }

def builtPart (p : Publish) (c : MqttConnection) (total : Nat) : MqttConnection :=
  { c with message :=
    { data := (p.bytes 0).take (p.dataStart + (c.bufferLength - p.headerRoom))
      fragmentedMsgTotalLength := total
      fragmentedMsgDataOffset := p.dataStart } }

theorem builtPart_ne_nil (p : Publish) (c : MqttConnection) (total : Nat) :
    (p.builtPart c total).message.data ≠ [] := by
  rw [builtPart, take_dataStart]
  exact List.cons_ne_nil _ _

section Enqueue

variable {memory store : Bool}

theorem clientEnqueue_fits (hDraws : p.Draws random) (hSize : p.body.length < 128 ^ 4)
    (hRoom : p.headerRoom + p.data.length ≤ c.bufferLength) :
    clientEnqueue random memory store c p.topic p.data p.qos p.retain =
      (if (p.qos > 0 ∨ store) ∧ memory = false then none else some p.id, p.built c) := by
  rw [clientEnqueue, mqttMsgPublish_fits hDraws hSize hRoom]
  dsimp only
  rw [if_neg (p.bytes_ne_nil 0)]
  cases memory with
  | true => simp [built]
  | false => by_cases hStored : p.qos > 0 ∨ store <;> simp [hStored, built]

/-- The length of a message that does not fit is left where nothing takes it back. -/
theorem clientEnqueue_oversized (hDraws : p.Draws random) (hSize : p.body.length < 128 ^ 4)
    (hHeader : p.headerRoom ≤ c.bufferLength)
    (hRoom : c.bufferLength < p.headerRoom + p.data.length) :
    clientEnqueue random memory store c p.topic p.data p.qos p.retain =
      (if (p.qos > 0 ∨ store) ∧ memory = false then none else some p.id,
        p.builtPart c (if (p.qos > 0 ∨ store) ∧ memory = true then 0
          else p.data.length + p.headerRoom)) := by
  have hSome : (p.bytes 0).take (p.dataStart + (c.bufferLength - p.headerRoom)) ≠ [] :=
    p.builtPart_ne_nil c 0
  rw [clientEnqueue, mqttMsgPublish_oversized hDraws hSize hHeader hRoom]
  dsimp only
  rw [if_neg hSome]
  cases memory with
  | true => by_cases hStored : p.qos > 0 ∨ store <;> simp [hStored, builtPart]
  | false => by_cases hStored : p.qos > 0 ∨ store <;> simp [hStored, builtPart]

theorem clientEnqueue_fails (hDraws : p.Draws random) (hHeader : c.bufferLength < p.headerRoom) :
    clientEnqueue random memory store c p.topic p.data p.qos p.retain = (none, failMessage c) := by
  rw [clientEnqueue, mqttMsgPublish_eq _ hDraws, if_pos hHeader]
  exact if_pos rfl

theorem clientPublish_fails (hDraws : p.Draws random) (hHeader : c.bufferLength < p.headerRoom)
    (online : Option (List Int)) :
    clientPublish random memory online c p.topic p.data p.qos p.retain =
      (some ⟨false, [], []⟩, failMessage c) := by
  rw [clientPublish, clientEnqueue_fails hDraws hHeader]

theorem clientPublish_fits (hDraws : p.Draws random) (hSize : p.body.length < 128 ^ 4)
    (hRoom : p.headerRoom + p.data.length ≤ c.bufferLength) (online : Option (List Int)) :
    clientPublish random memory online c p.topic p.data p.qos p.retain =
      if p.qos > 0 ∧ memory = false then (some ⟨false, [], []⟩, p.built c)
      else match online with
      | none => (some ⟨false, [], []⟩,
          (p.built c).settle (p.built c).message.fragmentedMsgDataOffset)
      | some returns => sendMessage returns (p.built c) p.data := by
  rw [clientPublish, clientEnqueue_fits hDraws hSize hRoom]
  simp only [Bool.false_eq_true, or_false]
  by_cases hGivenUp : p.qos > 0 ∧ memory = false
  · rw [if_pos hGivenUp, if_pos hGivenUp]
  · rw [if_neg hGivenUp, if_neg hGivenUp]

theorem clientPublish_oversized (hDraws : p.Draws random) (hSize : p.body.length < 128 ^ 4)
    (hHeader : p.headerRoom ≤ c.bufferLength)
    (hRoom : c.bufferLength < p.headerRoom + p.data.length) (online : Option (List Int)) :
    clientPublish random memory online c p.topic p.data p.qos p.retain =
      if p.qos > 0 ∧ memory = false then
        (some ⟨false, [], []⟩, p.builtPart c (p.data.length + p.headerRoom))
      else match online with
      | none => (some ⟨false, [], []⟩, (p.builtPart c 0).settle p.dataStart)
      | some returns => sendMessage returns (p.builtPart c 0) p.data := by
  rw [clientPublish, clientEnqueue_oversized hDraws hSize hHeader hRoom]
  simp only [Bool.false_eq_true, or_false]
  by_cases hGivenUp : p.qos > 0 ∧ memory = false
  · rw [if_pos hGivenUp, if_pos hGivenUp, if_neg fun h => by simp [hGivenUp.2] at h]
  · rw [if_neg hGivenUp, if_neg hGivenUp]
    -- neither the writes nor what they leave behind depend on the length of the whole
    cases online with
    | none => rfl
    | some returns => rfl

end Enqueue

theorem queuedMessage_eq (hDraws : p.Draws random) (hSize : p.body.length < 128 ^ 4)
    (hHeader : p.headerRoom ≤ c.bufferLength) :
    queuedMessage (mqttMsgPublish random c p.topic p.data p.qos p.retain).1 p.data =
      p.bytes 0 := by
  by_cases hRoom : c.bufferLength < p.headerRoom + p.data.length
  · have hPositive : p.data.length + p.headerRoom ≠ 0 := by omega
    have hFragment : (((p.bytes 0).take
        (p.dataStart + (c.bufferLength - p.headerRoom))).length : Int) - p.dataStart =
        (c.bufferLength - p.headerRoom : Nat) := by
      rw [List.length_take, p.bytes_length]
      omega
    have hDrop : p.data.drop (c.bufferLength - p.headerRoom) =
        (p.bytes 0).drop (p.dataStart + (c.bufferLength - p.headerRoom)) := by
      rw [← List.drop_drop, p.data_bytes]
    rw [mqttMsgPublish_oversized hDraws hSize hHeader hRoom, queuedMessage, if_neg hPositive]
    dsimp only
    rw [hFragment, Int.toNat_natCast, hDrop, List.take_append_drop]
  · rw [mqttMsgPublish_fits hDraws hSize (Nat.not_lt.mp hRoom)]
    rfl

theorem sendRest_sends {bufferLength : Nat} (hRoom : bufferLength ≠ 0) {rest : List UInt8}
    (hRest : rest ≠ []) : (sendRest bufferLength [1] rest).bytes ≠ [] := by
  have hPiece : rest.take bufferLength ≠ [] := by
    rw [Ne, List.take_eq_nil_iff]
    exact fun h => h.elim hRoom hRest
  have hSent : (espMqttWrite [1] (rest.take bufferLength)).bytes ≠ [] := by
    rw [espMqttWrite, if_neg hPiece, if_neg (by decide)]
    dsimp only
    rw [espMqttWrite, List.append_nil, Ne, List.take_eq_nil_iff]
    exact fun h => h.elim (by decide) hPiece
  rw [sendRest, dif_neg (fun h => h.elim hRest hRoom)]
  dsimp only
  split
  · exact fun h => hSent (List.append_eq_nil_iff.mp h).1
  · exact hSent

/-- A payload that is counted as sent in part only: its end is sent a second time, or what lies
before it. -/
theorem not_delivered (hRoom : c.bufferLength ≠ 0) (hData : c.message.data = p.bytes 0)
    (hSent : c.message.data.length - c.message.fragmentedMsgDataOffset < p.data.length) :
    ¬ p.Delivered (sendMessage [c.message.data.length, 1] c p.data).1 := by
  have hSome : c.message.data ≠ [] := by
    rw [hData]
    exact p.bytes_ne_nil 0
  rw [sendMessage, espMqttWrite_once hSome, if_pos rfl, if_neg (by omega)]
  split
  · exact not_false
  · have hRest : p.data.drop
        (c.message.data.length - c.message.fragmentedMsgDataOffset).toNat ≠ [] := by
      rw [Ne, List.drop_eq_nil_iff]
      omega
    have hMore := List.length_pos_iff.mpr (sendRest_sends hRoom hRest)
    intro hDelivered
    have hLength := hDelivered.1.length_le
    rw [List.length_append, ← hData] at hLength
    dsimp only at hLength
    omega

/-- What a call sends reaches the broker whole, or up to the write that failed, if and only if the
buffer did not take the message, or nothing was sent for want of memory, or no offset of an earlier
message was left. -/
theorem delivers_iff (p : Publish) (hDraws : p.Draws random) (hSize : p.body.length < 128 ^ 4)
    (memory : Bool) :
    (∀ returns, p.Delivered
      (clientPublish random memory (some returns) c p.topic p.data p.qos p.retain).1) ↔
      c.bufferLength < p.headerRoom + p.data.length ∨ (p.qos > 0 ∧ memory = false) ∨
        c.message.fragmentedMsgDataOffset ≤ p.headerRoom := by
  have hNothing : p.Delivered (some ⟨false, [], []⟩) := ⟨List.nil_prefix, nofun⟩
  rcases Nat.lt_or_ge c.bufferLength p.headerRoom with hShort | hHeader
  · simp only [clientPublish_fails hDraws hShort]
    exact iff_of_true (fun _ => hNothing) (Or.inl (Nat.lt_add_right _ hShort))
  have hBuffer : c.bufferLength ≠ 0 := by
    rw [headerRoom, MQTT_MAX_FIXED_HEADER_SIZE] at hHeader
    omega
  by_cases hRoom : c.bufferLength < p.headerRoom + p.data.length
  · refine iff_of_true (fun returns => ?_) (Or.inl hRoom)
    rw [clientPublish_oversized hDraws hSize hHeader hRoom]
    split
    · exact hNothing
    · exact sendMessage_oversized hBuffer (by omega) rfl rfl
  · rw [or_iff_right hRoom]
    simp only [clientPublish_fits hDraws hSize (Nat.not_lt.mp hRoom)]
    by_cases hGivenUp : p.qos > 0 ∧ memory = false
    · simp only [if_pos hGivenUp]
      exact iff_of_true (fun _ => hNothing) (Or.inl hGivenUp)
    have hLens : (encode p.body.length).length ≤ 4 := encode_length_le hSize
    have hLength := p.bytes_length 0
    have hStart : p.dataStart = headerLength p.body + p.header.length := rfl
    have hHeaderRoom : p.headerRoom = 5 + p.header.length := rfl
    have hBuilt : (p.built c).message.fragmentedMsgDataOffset =
        c.message.fragmentedMsgDataOffset - (5 - headerLength p.body : Nat) := rfl
    have hBytes : (p.built c).message.data = p.bytes 0 := rfl
    rw [headerLength] at hStart hBuilt
    simp only [if_neg hGivenUp]
    rw [or_iff_right hGivenUp]
    constructor
    · intro hAll
      by_contra hStale
      refine not_delivered (p := p) (c := p.built c) hBuffer rfl ?_ (hAll [(p.bytes 0).length, 1])
      rw [hBuilt, hBytes]
      omega
    · intro hSettled returns
      apply sendMessage_fits rfl
      rw [hBuilt, hBytes]
      omega

end Publish

/-- A message in the outbox is read as it was meant, also when it is sent again as a duplicate, and
none is built if the buffer has no room for its header. -/
theorem queued_roundTrip (p : Publish) {random : MessageId} (hDraws : p.Draws random)
    (hSize : p.body.length < 128 ^ 4) (c : MqttConnection) :
    (c.bufferLength < p.headerRoom →
      (mqttMsgPublish random c p.topic p.data p.qos p.retain).1.message.data = []) ∧
    (p.headerRoom ≤ c.bufferLength →
      ∃ m, queuedMessage (mqttMsgPublish random c p.topic p.data p.qos p.retain).1 p.data = m ∧
        (p.ReadAs 0 m m.length ∧ (mqttGetPublishData m m.length).getD [] = p.data) ∧
        (p.ReadAs 1 (setDup m) (setDup m).length ∧
          (mqttGetPublishData (setDup m) (setDup m).length).getD [] = p.data)) := by
  refine ⟨fun hShort => ?_, fun hHeader => ?_⟩
  · rw [p.mqttMsgPublish_eq hDraws, if_pos hShort]
    rfl
  · refine ⟨p.bytes 0, Publish.queuedMessage_eq hDraws hSize hHeader,
      p.bytes_readAs (by decide), ?_⟩
    rw [p.setDup_bytes]
    exact p.bytes_readAs (by decide)

def sampleId : MessageId := ⟨7, by decide, by decide⟩

def halfBuffer : MqttConnection := ⟨⟨[], 0, 40⟩, 16⟩

/-- The second write of the rest fails. -/
theorem samplePublished_delivered : samplePublished.Delivered
    (clientPublish sampleId true (some [13, 2, 4, 0]) halfBuffer samplePublished.topic
      samplePublished.data samplePublished.qos samplePublished.retain).1 :=
  (Publish.delivers_iff samplePublished (fun _ => rfl) (by decide) true).mpr
    (Or.inl (by decide)) [13, 2, 4, 0]

theorem samplePublished_roundTrip : ∃ m,
    queuedMessage (mqttMsgPublish sampleId halfBuffer samplePublished.topic
      samplePublished.data samplePublished.qos samplePublished.retain).1 samplePublished.data = m ∧
      (samplePublished.ReadAs 0 m m.length ∧
        (mqttGetPublishData m m.length).getD [] = samplePublished.data) ∧
      (samplePublished.ReadAs 1 (setDup m) (setDup m).length ∧
        (mqttGetPublishData (setDup m) (setDup m).length).getD [] = samplePublished.data) :=
  (queued_roundTrip samplePublished (fun _ => rfl) (by decide) halfBuffer).2 (by decide)

end FcomGateway.Mqtt
