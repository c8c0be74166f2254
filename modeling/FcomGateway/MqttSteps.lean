import FcomGateway.MqttMoves

/-! # Every action is made of moves

What the client does to its store, action by action. The heads of the messages are followed so far
as to tell a new message by its type, its flags and its identifier.
-/

namespace FcomGateway.Mqtt

/-! ## Messages that were built -/

theorem getDup_typeByte (type : MessageType) (qos retain : Nat) (rest : List UInt8) :
    getType (typeByte type 0 qos retain :: rest) = some type ∧
      getDup (typeByte type 0 qos retain :: rest) = 0 := by
  have hQos : qos &&& 3 = qos % 4 &&& 3 := by
    rw [Nat.and_two_pow_sub_one_eq_mod qos 2, Nat.and_two_pow_sub_one_eq_mod _ 2]
    omega
  have hRetain : retain &&& 1 = retain % 2 &&& 1 := by
    rw [Nat.and_two_pow_sub_one_eq_mod retain 1, Nat.and_two_pow_sub_one_eq_mod _ 1]
    omega
  have hByte : typeByte type 0 qos retain = typeByte type 0 (qos % 4) (retain % 2) := by
    rw [typeByte, typeByte, hQos, hRetain]
  obtain ⟨hType, hDup, -⟩ := typeByte_reads type 0 ⟨qos % 4, Nat.mod_lt _ (by decide)⟩
    ⟨retain % 2, Nat.mod_lt _ (by decide)⟩ rest
  rw [hByte]
  exact ⟨hType, hDup⟩

/-- A message of one type that is no duplicate. -/
def Headed (type : MessageType) (data : List UInt8) : Prop :=
  getType data = some type ∧ getDup data = 0

theorem finiMessage_headed {c : MqttConnection} {body : List UInt8} {type : MessageType}
    {qos retain : Nat} (h : (finiMessage c body type 0 qos retain).message.data ≠ []) :
    Headed type (finiMessage c body type 0 qos retain).message.data := by
  revert h
  rw [finiMessage.eq_def]
  generalize (if c.message.fragmentedMsgTotalLength ≠ 0 then _ else _) = totalLength
  dsimp only
  split
  · exact fun h => absurd rfl h
  · exact fun _ => getDup_typeByte type qos retain _

theorem appendMessageId_id {random : MessageId} {bufferLength : Nat} {body body' : List UInt8}
    {id : Nat} (h : appendMessageId random bufferLength body 0 = some (body', id)) :
    id = random.toNat := by
  rw [appendMessageId] at h
  split at h
  · cases h
  · cases h
    rfl

theorem mqttMsgPublish_built (random : MessageId) (c : MqttConnection) (topic data : List UInt8)
    (qos retain : Nat)
    (h : (mqttMsgPublish random c topic data qos retain).1.message.data ≠ []) :
    Headed .publish (mqttMsgPublish random c topic data qos retain).1.message.data ∧
      (mqttMsgPublish random c topic data qos retain).2 = if qos > 0 then random.toNat else 0 := by
  revert h
  rw [mqttMsgPublish.eq_def]
  split
  · exact fun h => absurd rfl h
  · cases appendString c.bufferLength [] topic with
    | none => exact fun h => absurd rfl h
    | some body =>
      dsimp only
      by_cases hQos : qos > 0
      · rw [if_pos hQos, if_pos hQos]
        cases hHeader : appendMessageId random c.bufferLength body 0 with
        | none => exact fun h => absurd rfl h
        | some header =>
          exact fun h => ⟨finiMessage_headed h, appendMessageId_id hHeader⟩
      · rw [if_neg hQos, if_neg hQos]
        exact fun h => ⟨finiMessage_headed h, rfl⟩

theorem topicMessage_built (random : MessageId) (c : MqttConnection) (type : MessageType)
    (topic rest : List UInt8) (h : (topicMessage random c type topic rest).1.message.data ≠ []) :
    Headed type (topicMessage random c type topic rest).1.message.data ∧
      (topicMessage random c type topic rest).2 = random.toNat := by
  revert h
  rw [topicMessage]
  split
  · exact fun h => absurd rfl h
  · split
    · exact fun h => absurd rfl h
    · rename_i body id hId
      split
      · exact fun h => absurd rfl h
      · split
        · exact fun h => absurd rfl h
        · exact fun h => ⟨finiMessage_headed h, appendMessageId_id hId⟩

/-! ## Writes -/

theorem getDup_append {data : List UInt8} (h : data ≠ []) (rest : List UInt8) :
    getDup (data ++ rest) = getDup data := by
  obtain ⟨b, tail, rfl⟩ := List.exists_cons_of_ne_nil h
  rfl

theorem getDup_isPrefix {bytes data : List UInt8} (h : bytes <+: data) (hSome : bytes ≠ []) :
    getDup bytes = getDup data := by
  obtain ⟨rest, rfl⟩ := h
  exact (getDup_append hSome rest).symm

theorem sendMessage_head {returns : List Int} {c : MqttConnection} {data : List UInt8} {sent : Sent}
    (h : (sendMessage returns c data).1 = some sent) (hBuilt : c.message.data ≠ [])
    (hSome : sent.bytes ≠ []) : getDup sent.bytes = getDup c.message.data := by
  obtain ⟨hPrefix, hAll⟩ := espMqttWrite_isPrefix returns c.message.data
  revert h
  rw [sendMessage.eq_def]
  dsimp only
  split
  · have hFirst := hAll ‹_›
    split
    · intro h
      cases h
      rw [hFirst]
    · split
      · nofun
      · intro h
        cases h
        dsimp only
        rw [hFirst, getDup_append hBuilt]
  · intro h
    cases h
    exact getDup_isPrefix hPrefix hSome

/-- A write in one go: nothing where the transport is closed. -/
theorem writeData_cases (c : MqttClient) (returns : List Int) (now : Nat)
    (item : Option OutboxItem) :
    (c.writeData returns now item).2.store = c.store ∧
        (c.writeData returns now item).1 = false ∨
      ∃ w : Write, (c.writeData returns now item).2.store = c.store.log w ∧ w.item = item ∧
        w.bytes <+: c.connection.message.data ∧ w.ok = (c.writeData returns now item).1 := by
  rw [MqttClient.writeData]
  split
  · have hPrefix := (espMqttWrite_isPrefix returns c.connection.message.data).1
    refine Or.inr ⟨⟨item, (espMqttWrite returns c.connection.message.data).bytes,
      (espMqttWrite returns c.connection.message.data).ok⟩, ?_, rfl, hPrefix, rfl⟩
    dsimp only
    split
    · rfl
    · rfl
  · exact Or.inl ⟨rfl, rfl⟩

/-- What an incoming message acknowledges. -/
def Arrival.ack (a : Arrival) : Option (MessageType × Nat) :=
  let msgId := mqttGetId a.bytes a.messageLength
  match getType a.bytes with
  | some .suback => some (.subscribe, msgId)
  | some .unsuback => some (.unsubscribe, msgId)
  | some .puback | some .pubcomp => some (.publish, msgId)
  | _ => none

/-- The identifier that a call draws. -/
def ClientAction.drawn : ClientAction → Option Nat
  | .publish a _ _ | .enqueue a _ => some a.random.toNat
  | .subscribe random .. | .unsubscribe random .. => some random.toNat
  | _ => none

/-- What an action hands to the client as acknowledged. -/
def ClientAction.ack : ClientAction → Option (MessageType × Nat)
  | .round r =>
    match r.disconnect, r.incoming with
    | false, .message a => a.ack
    | _, _ => none
  | _ => none

/-- The identifier that is drawn, if any, is not that of an item. -/
def ClientAction.Unused (a : ClientAction) (s : Store) : Prop :=
  ∀ id ∈ a.drawn, ∀ item ∈ s.outbox, item.msgId ≠ id

section Moves

variable {fresh : Prop} {ack : Option (MessageType × Nat)} {c : MqttClient}

theorem Moves.writeData_none {s : Store} (h : c.store = s) (returns : List Int) (now : Nat) :
    Moves fresh ack s (c.writeData returns now none).2.store := by
  subst h
  rcases writeData_cases c returns now none with ⟨hStore, -⟩ | ⟨w, hStore, hItem, -⟩
  · rw [hStore]
  · rw [hStore]
    exact .single (.write_none hItem)

/-! ## The task -/

theorem Moves.isValid {msgType : MessageType} {msgId : Nat} (hAck : ack = some (msgType, msgId)) :
    Moves fresh ack c.store (c.isValidMqttMsg msgType msgId).2.store := by
  rw [MqttClient.isValidMqttMsg]
  split
  · exact .refl
  · rename_i s h
    exact .single (.acknowledge msgType msgId s hAck h)

theorem Moves.processMessage (hWf : c.store.Wellformed fresh) (r : MqttClient.Round)
    (a : Arrival) (hAck : ack = a.ack) :
    Moves fresh ack c.store (c.processMessage r a).2.store := by
  rw [Arrival.ack] at hAck
  rw [MqttClient.processMessage.eq_def]
  dsimp only
  split
  case h_1 hType =>
    rw [hType] at hAck
    refine (Moves.isValid hAck).trans ?_
    rcases c.isValidMqttMsg .subscribe (mqttGetId a.bytes a.messageLength) with ⟨valid, c'⟩
    cases valid
    · exact .refl
    · dsimp only
      split
      · exact .refl
      · exact .refl
  case h_2 hType =>
    rw [hType] at hAck
    refine (Moves.isValid hAck).trans ?_
    rcases c.isValidMqttMsg .unsubscribe (mqttGetId a.bytes a.messageLength) with ⟨valid, c'⟩
    cases valid
    · exact .refl
    · exact .refl
  case h_3 =>
    have hBuilt : ∀ c' : MqttClient, c'.store = c.store →
        Moves fresh ack c.store (if c'.connection.message.data = [] then (false, c')
          else if getQos a.bytes = 1 ∨ getQos a.bytes = 2 then
            c'.writeData r.answer r.ticks.receive none else (true, c')).2.store := by
      intro c' hStore
      rw [← hStore]
      split
      · exact .refl
      · split
        · exact .writeData_none rfl _ _
        · exact .refl
    apply hBuilt
    split
    · rfl
    · split
      · rfl
      · rfl
  case h_4 hType | h_5 hType =>
    rw [hType] at hAck
    refine (Moves.isValid hAck).trans ?_
    rcases c.isValidMqttMsg .publish (mqttGetId a.bytes a.messageLength) with ⟨valid, c'⟩
    cases valid
    · exact .refl
    · exact .refl
  case h_6 =>
    rw [MqttClient.build]
    split
    · rename_i hBuilt
      obtain ⟨-, rfl⟩ := Prod.mk.inj hBuilt
      exact .refl
    · rename_i hBuilt
      obtain ⟨-, rfl⟩ := Prod.mk.inj hBuilt
      have hAcknowledged : Move fresh ack c.store
          (c.store.setPending (mqttGetId a.bytes a.messageLength) .acknowledged) :=
        .setUnimportant hWf _ nofun nofun
      refine .head hAcknowledged ?_
      apply Moves.writeData_none
      rfl
  case h_7 =>
    rw [MqttClient.build]
    split
    · rename_i hBuilt
      obtain ⟨-, rfl⟩ := Prod.mk.inj hBuilt
      exact .refl
    · rename_i hBuilt
      obtain ⟨-, rfl⟩ := Prod.mk.inj hBuilt
      apply Moves.writeData_none
      rfl
  case h_8 => exact .refl
  case h_9 => exact .refl

/-! ## Sending again -/

theorem getDup_setDup {data : List UInt8} (h : data ≠ []) : getDup (setDup data) = 1 := by
  obtain ⟨b, rest, rfl⟩ := List.exists_cons_of_ne_nil h
  have hByte : ∀ b : UInt8, (((b ||| 0x08) &&& 0x08) >>> 3).toNat = 1 :=
    HexText.forall_byte (by decide +kernel)
  exact hByte b

/-- What `mqtt_resend_queued` makes of an item. -/
def OutboxItem.resent (item : OutboxItem) : OutboxItem :=
  { item with
    data := if item.msgType = some .publish ∧ item.msgQos > 0 ∧ item.pending = .transmitted then
      setDup item.data else item.data }

theorem OutboxItem.resent_same (item : OutboxItem) : item.resent.Same item := ⟨rfl, rfl, rfl, rfl⟩

theorem mem_setData {s : Store} (hWf : s.Wellformed fresh) {item : OutboxItem}
    (hItem : item ∈ s.outbox) (data : List UInt8) :
    { item with data := data } ∈ (s.setData item data).outbox := by
  obtain ⟨before, after, hOutbox⟩ := List.append_of_mem hItem
  have hBefore : ∀ other ∈ before, ¬ decide (other.handle = item.handle) = true := by
    intro other hOther hHandle
    have hNodup := hWf.handles
    rw [hOutbox, List.map_append, List.nodup_append] at hNodup
    exact hNodup.2.2 _ (List.mem_map_of_mem hOther) _ List.mem_cons_self
      (of_decide_eq_true hHandle)
  rw [Store.setData, hOutbox]
  dsimp only
  rw [updateFirst_append hBefore (decide_eq_true rfl)]
  exact List.mem_append_right _ List.mem_cons_self

/-- What `mqtt_resend_queued` does: the item is changed, written, and taken out where no answer
is awaited. -/
theorem resendQueued_cases (c : MqttClient) (item : OutboxItem) (returns : List Int) (now : Nat) :
    (c.resendQueued item returns now).1 = false ∧
        (c.resendQueued item returns now).2.store = c.store.setData item item.resent.data ∨
      ∃ w : Write, w.item = some item ∧ w.bytes <+: item.resent.data ∧
        w.ok = (c.resendQueued item returns now).1 ∧
        (c.resendQueued item returns now).2.store =
          if w.ok = true ∧ item.msgType = some .publish ∧ item.msgQos = 0 then
            ((c.store.setData item item.resent.data).log w).hand item
          else (c.store.setData item item.resent.data).log w := by
  have hWrite := writeData_cases { c with
    connection :=
      { c.connection with message := { c.connection.message with data := item.resent.data } }
    pendingPublishQos := item.msgQos
    store := c.store.setData item item.resent.data } returns now (some item)
  have hEq : ∀ result, MqttClient.writeData { c with
      connection :=
        { c.connection with message := { c.connection.message with data := item.resent.data } }
      pendingPublishQos := item.msgQos
      store := c.store.setData item item.resent.data } returns now (some item) = result →
      c.resendQueued item returns now = if result.1 then
        if item.msgType = some .publish ∧ item.msgQos = 0 then
          (true, { result.2 with store := result.2.store.hand item })
        else (true, result.2)
      else (false, result.2.abortConnection now) := by
    rintro _ rfl
    rfl
  revert hWrite
  generalize hResult : MqttClient.writeData _ returns now (some item) = result
  rw [hEq result hResult]
  rcases result with ⟨ok, c'⟩
  rintro (⟨hStore, hOk⟩ | ⟨w, hStore, hItem, hBytes, hOk⟩)
  · dsimp only at hStore hOk
    subst hOk
    exact Or.inl ⟨rfl, hStore⟩
  · refine Or.inr ⟨w, hItem, hBytes, ?_⟩
    dsimp only at hStore hOk ⊢
    rw [hOk, ← hStore]
    cases ok
    · exact ⟨rfl, (if_neg fun h => Bool.false_ne_true h.1).symm⟩
    · rw [if_pos rfl]
      by_cases hHand : item.msgType = some .publish ∧ item.msgQos = 0
      · rw [if_pos hHand, if_pos ⟨rfl, hHand⟩]
        exact ⟨rfl, rfl⟩
      · rw [if_neg hHand, if_neg fun h => hHand h.2]
        exact ⟨rfl, rfl⟩

/-- The first two moves of sending again, and what is known between them. -/
theorem Moves.setData (hWf : c.store.Wellformed fresh) {item : OutboxItem}
    (hItem : item ∈ c.store.outbox) :
    Moves fresh ack c.store (c.store.setData item item.resent.data) := by
  refine .single (.setData hWf hItem fun _ hPending => ?_)
  have hOnce : ¬ (item.msgType = some .publish ∧ item.msgQos > 0 ∧
      item.pending = .transmitted) := by
    rintro ⟨-, -, hTransmitted⟩
    rw [hPending] at hTransmitted
    cases hTransmitted
  exact if_neg hOnce

theorem writeFor_resent (hWf : c.store.Wellformed fresh) {item : OutboxItem}
    (hItem : item ∈ c.store.outbox)
    (hPending : item.pending = .queued ∨ item.pending = .transmitted) {w : Write}
    (hFor : w.item = some item) (hBytes : w.bytes <+: item.resent.data) :
    WriteFor fresh (c.store.setData item item.resent.data).outbox w := by
  intro item' hItem'
  rw [hFor] at hItem'
  cases hItem'
  refine ⟨item.resent, mem_setData hWf hItem _, item.resent_same, fun _ hImportant hSome => ?_⟩
  rcases hPending with hQueued | hTransmitted
  · exact Or.inl ⟨hQueued, getDup_isPrefix hBytes hSome⟩
  · refine Or.inr ⟨hTransmitted, ?_⟩
    have hData : item.resent.data = setDup item.data :=
      if_pos ⟨hImportant.1, hImportant.2, hTransmitted⟩
    rw [getDup_isPrefix hBytes hSome, hData]
    apply getDup_setDup
    rintro hEmpty
    rw [hData, hEmpty] at hBytes
    exact hSome (List.prefix_nil.mp hBytes)

/-- The items that a write completes are the one that it was made for. -/
theorem completes_resent {s : Store} (hWf : s.Wellformed fresh) {item other : OutboxItem}
    (hItem : item ∈ s.outbox) (hOther : other ∈ (s.setData item item.resent.data).outbox)
    (hData : (s.setData item item.resent.data).Wellformed fresh) {w : Write}
    (hFor : w.item = some item) (hComplete : w.Completes other.handle) : other = item.resent := by
  obtain ⟨-, item', hItem', hHandle⟩ := hComplete
  rw [hFor] at hItem'
  cases hItem'
  exact hData.same_handle hOther (mem_setData hWf hItem _) hHandle.symm

theorem Moves.resendTransmitted (hWf : c.store.Wellformed fresh) {item : OutboxItem}
    (hItem : item ∈ c.store.outbox) (hPending : item.pending = .transmitted) (returns : List Int)
    (now : Nat) : Moves fresh ack c.store (c.resendQueued item returns now).2.store := by
  have hData : Moves fresh ack c.store (c.store.setData item item.resent.data) :=
    .setData hWf hItem
  rcases resendQueued_cases c item returns now with ⟨-, hStore⟩ | ⟨w, hFor, hBytes, -, hStore⟩
  · rw [hStore]
    exact hData
  · have hWfData := hData.wellformed hWf
    have hWrite : Move fresh ack (c.store.setData item item.resent.data)
        ((c.store.setData item item.resent.data).log w) := by
      refine .write w (writeFor_resent hWf hItem (Or.inr hPending) hFor hBytes) ?_
      intro _ other hOther _ hQueued hComplete
      rw [completes_resent hWf hItem hOther hWfData hFor hComplete] at hQueued
      rw [OutboxItem.resent, hPending] at hQueued
      cases hQueued
    rw [hStore]
    split
    · exact (hData.tail hWrite).tail (.hand item)
    · exact hData.tail hWrite

theorem Moves.resendFirst (hWf : c.store.Wellformed fresh) {item : OutboxItem}
    (hItem : item ∈ c.store.outbox) (hPending : item.pending = .queued) (returns : List Int)
    (now : Nat) :
    Moves fresh ack c.store (if (c.resendQueued item returns now).1 = true then
      (c.resendQueued item returns now).2.store.setPending item.msgId .transmitted
      else (c.resendQueued item returns now).2.store) := by
  have hData : Moves fresh ack c.store (c.store.setData item item.resent.data) :=
    .setData hWf hItem
  have hMem := mem_setData hWf hItem item.resent.data
  have hWfData := hData.wellformed hWf
  rcases resendQueued_cases c item returns now with
    ⟨hFailed, hStore⟩ | ⟨w, hFor, hBytes, hOk, hStore⟩
  · rw [if_neg (by rw [hFailed]; exact Bool.false_ne_true), hStore]
    exact hData
  · have hWriteFor : WriteFor fresh (c.store.setData item item.resent.data).outbox w :=
      writeFor_resent hWf hItem (Or.inl hPending) hFor hBytes
    have hOnly : ∀ other ∈ (c.store.setData item item.resent.data).outbox,
        w.Completes other.handle → other = item.resent := fun other hOther =>
      completes_resent hWf hItem hOther hWfData hFor
    rw [← hOk, hStore]
    by_cases hSent : w.ok = true
    · rw [if_pos hSent]
      split
      · -- the item has left, and its identifier is that of no other item that matters
        rename_i hHand
        have hUnimportant : ¬ item.resent.Important := fun h => h.2.ne' hHand.2.2
        have hWrite : Move fresh ack (c.store.setData item item.resent.data)
            ((c.store.setData item item.resent.data).log w) := by
          refine .write w hWriteFor fun _ other hOther hImportant _ hComplete => ?_
          rw [hOnly other hOther hComplete] at hImportant
          exact hUnimportant hImportant
        have hLeft : Moves fresh ack c.store
            (((c.store.setData item item.resent.data).log w).hand item) :=
          (hData.tail hWrite).tail (.hand item)
        have hWfLeft := hLeft.wellformed hWf
        have hSub : (((c.store.setData item item.resent.data).log w).hand item).outbox ⊆
            (c.store.setData item item.resent.data).outbox := by
          rcases hand_cases ((c.store.setData item item.resent.data).log w) item with
            hSame | ⟨before, found, after, hOutbox, -, hEq⟩
          · rw [hSame]
            exact List.Subset.refl _
          · rw [hEq]
            change before ++ after ⊆ _
            change (c.store.setData item item.resent.data).outbox = _ at hOutbox
            rw [hOutbox]
            exact ((List.sublist_cons_self _ _).append_left before).subset
        refine hLeft.tail (.setUnimportant hWfLeft item.msgId nofun ?_)
        · intro hFresh other hOther hImportant hId _
          have hNamed := hWfLeft.named hFresh other hOther hImportant
          have hEq := hWfData.same_id hFresh (hSub hOther) hMem hId hNamed
          rw [hEq] at hImportant
          exact absurd hImportant hUnimportant
      · have hHandle : w.item.map OutboxItem.handle = some item.resent.handle := by
          rw [hFor]
          rfl
        exact hData.tail (.transmit hWfData hMem hHandle (fun _ _ => hSent) hWriteFor)
    · rw [if_neg hSent, if_neg fun h => hSent h.1]
      refine hData.tail (.write w hWriteFor fun _ other _ _ _ hComplete => ?_)
      exact hSent hComplete.1

theorem mem_dequeue {outbox : Outbox} {pending : Pending} {item : OutboxItem}
    (h : outboxDequeue outbox pending = some item) : item ∈ outbox ∧ item.pending = pending := by
  have hFound := List.find?_some h
  exact ⟨List.mem_of_find?_eq_some h, of_decide_eq_true hFound⟩

theorem Moves.resend (hWf : c.store.Wellformed fresh) (r : MqttClient.Round) :
    Moves fresh ack c.store (c.resend r).store := by
  rw [MqttClient.resend]
  split
  · rename_i item hQueued
    obtain ⟨hItem, hPending⟩ := mem_dequeue hQueued
    convert Moves.resendFirst hWf hItem hPending r.resend r.ticks.resend using 1
    dsimp only
    split
    · rfl
    · rfl
  · split
    · dsimp only
      split
      · exact .refl
      · rename_i item hTransmitted
        obtain ⟨hItem, hPending⟩ := mem_dequeue hTransmitted
        split
        · exact Moves.resendTransmitted
            (c := { c with lastRetransmit := r.ticks.retransmit }) hWf hItem hPending _ _
        · exact .refl
    · exact .refl

theorem Moves.keepAlive (c : MqttClient) (r : MqttClient.Round) :
    Moves fresh ack c.store (c.keepAlive r).store := by
  rw [MqttClient.keepAlive]
  split
  · split
    · exact .refl
    · split
      · rename_i hBuilt
        obtain ⟨-, rfl⟩ := Prod.mk.inj hBuilt
        exact .refl
      · rename_i hBuilt
        obtain ⟨-, rfl⟩ := Prod.mk.inj hBuilt
        have hPing : Moves fresh ack c.store (MqttClient.writeData
            { c with connection := mqttMsgPingreq c.connection } r.ping r.ticks.ping
              none).2.store := by
          apply Moves.writeData_none
          rfl
        split
        · rename_i hWrite
          rw [hWrite] at hPing
          exact hPing
        · rename_i hWrite
          rw [hWrite] at hPing
          exact hPing
  · exact .refl

/-- What a round does behind the receiving. -/
theorem Moves.continueRound (hWf : c.store.Wellformed fresh) (r : MqttClient.Round) :
    Moves fresh ack c.store (({ c with store := c.store.deleteExpired r.ticks.expire }.resend
      r).keepAlive r).store := by
  have hExpired : Moves fresh ack c.store (c.store.deleteExpired r.ticks.expire) :=
    .single (.deleteExpired r.ticks.expire)
  refine (hExpired.trans ?_).trans (Moves.keepAlive _ r)
  exact Moves.resend (c := { c with store := c.store.deleteExpired r.ticks.expire })
    (hExpired.wellformed hWf) r

theorem Moves.connectedRound (hWf : c.store.Wellformed fresh) (r : MqttClient.Round)
    (hAck : ∀ a, r.disconnect = false → r.incoming = .message a → ack = a.ack) :
    Moves fresh ack c.store (c.connectedRound r).store := by
  rw [MqttClient.connectedRound.eq_def]
  split
  · have hWrite : Moves fresh ack c.store (MqttClient.writeData
        { c with connection := mqttMsgDisconnect c.connection } r.answer r.ticks.receive
          none).2.store := by
      apply Moves.writeData_none
      rfl
    rw [MqttClient.build]
    dsimp only
    split
    · exact hWrite
    · exact .refl
  · rename_i hStays
    cases hIncoming : r.incoming with
    | failed => exact .refl
    | nothing => exact .continueRound hWf r
    | message a =>
      have hProcess : Moves fresh ack c.store (c.processMessage r a).2.store :=
        .processMessage hWf r a (hAck a (Bool.eq_false_of_not_eq_true hStays) hIncoming)
      refine hProcess.trans ?_
      have hWfProcess := hProcess.wellformed hWf
      revert hWfProcess
      dsimp only
      rcases c.processMessage r a with ⟨ok, c'⟩
      intro hWf'
      cases ok
      · exact .refl
      · exact Moves.continueRound hWf' r

theorem Moves.stop (c : MqttClient) (returns : List Int) (now : Nat) :
    Moves fresh ack c.store (c.stop returns now).store := by
  have hWrite : Moves fresh ack c.store (MqttClient.writeData
      { c with connection := mqttMsgDisconnect c.connection } returns now none).2.store := by
    apply Moves.writeData_none
    rfl
  rw [MqttClient.stop]
  split
  · by_cases hConnected : c.state = .connected
    · rw [if_pos hConnected, MqttClient.build]
      dsimp only
      split
      · exact hWrite
      · exact .refl
    · rw [if_neg hConnected]
      exact .refl
  · exact .refl

/-! ## Calls -/

/-- What an action may do to the store. -/
def Acts (fresh : Prop) (drawn : Option Nat) (ack : Option (MessageType × Nat)) (s s' : Store) :
    Prop :=
  ∃ s₁, Intake fresh drawn s s₁ ∧ Moves fresh ack s₁ s'

/-- An item as it is handed to the outbox. -/
structure Accepts (fresh : Prop) (drawn : Option Nat) (s : Store) (item : OutboxItem) : Prop where
  handle : item.handle = s.nextHandle
  drawn : item.msgId ≠ 0 → drawn = some item.msgId
  new : fresh → NewItem s.outbox item

variable {drawn : Option Nat} {s s' : Store} {item : OutboxItem}

theorem Accepts.intake (h : Accepts fresh drawn s item) (memory : Bool) :
    Intake fresh drawn s (s.accept item memory) :=
  .accept item memory h.handle h.drawn h.new

theorem Acts.of_moves (h : Moves fresh ack s s') : Acts fresh drawn ack s s' := ⟨s, .none, h⟩

theorem mem_accept (s : Store) (item : OutboxItem) : item ∈ (s.accept item true).outbox :=
  List.mem_append_right _ (List.mem_singleton_self _)

/-- What `mqtt_client_enqueue_priv` leaves. -/
inductive Enqueued (fresh : Prop) (c : MqttClient) (a : MqttClient.PublishArgs) (store : Bool) :
    Option Nat × Option OutboxItem × MqttClient → Prop
  | failed (c' : MqttClient) (h : c'.store = c.store) : Enqueued fresh c a store (none, none, c')
  | full (c' : MqttClient) (item : OutboxItem)
      (hAccepts : Accepts fresh (some a.random.toNat) c.store item)
      (h : c'.store = c.store.accept item false) : Enqueued fresh c a store (none, none, c')
  | stored (c' : MqttClient) (item : OutboxItem)
      (hAccepts : Accepts fresh (some a.random.toNat) c.store item)
      (h : c'.store = c.store.accept item true) (hKept : a.qos > 0 ∨ store = true)
      (hBuilt : c'.connection.message.data ≠ [])
      (hDup : getDup item.data = getDup c'.connection.message.data) :
      Enqueued fresh c a store (some item.msgId, some item, c')
  | direct (c' : MqttClient) (msgId : Nat) (hQos : ¬ a.qos > 0) (h : c'.store = c.store) :
      Enqueued fresh c a store (some msgId, none, c')

theorem queuedMessage_dup {connection : MqttConnection} (h : connection.message.data ≠ [])
    (data : List UInt8) :
    getDup (queuedMessage connection data) = getDup connection.message.data := by
  rw [queuedMessage.eq_def]
  split
  · rfl
  · exact getDup_append h _

theorem enqueuePriv_cases (c : MqttClient) (a : MqttClient.PublishArgs) (store : Bool)
    (hUnused : fresh → ∀ other ∈ c.store.outbox, other.msgId ≠ a.random.toNat) :
    Enqueued fresh c a store (c.enqueuePriv a store) := by
  have hPublish := mqttMsgPublish_built a.random c.connection a.topic a.data a.qos a.retain
  rw [MqttClient.enqueuePriv]
  revert hPublish
  rcases mqttMsgPublish a.random c.connection a.topic a.data a.qos a.retain with ⟨connection, id⟩
  intro hPublish
  dsimp only at hPublish ⊢
  split
  · exact .failed _ rfl
  · rename_i hSome
    obtain ⟨⟨hType, hDup⟩, hId⟩ := hPublish hSome
    have hAccepts : Accepts fresh (some a.random.toNat) c.store
        (MqttClient.newItem { c with connection := connection } (queuedMessage connection a.data) id
          a.qos a.now) := by
      refine ⟨rfl, fun hNonzero => ?_, fun hFresh => ⟨rfl, fun _ => ?_, fun hImportant => ?_, ?_⟩⟩
      · change id ≠ 0 at hNonzero
        change some a.random.toNat = some id
        rw [hId] at hNonzero ⊢
        split at hNonzero
        · rw [if_pos ‹_›]
        · exact absurd rfl hNonzero
      · exact (queuedMessage_dup hSome a.data).trans hDup
      · change id ≠ 0
        have hQos : a.qos > 0 := hImportant.2
        rw [hId, if_pos hQos]
        exact a.random.pos.ne'
      · intro hNonzero other hOther
        change id ≠ 0 at hNonzero
        change other.msgId ≠ id
        rw [hId] at hNonzero ⊢
        split at hNonzero
        · rw [if_pos ‹_›]
          exact hUnused hFresh other hOther
        · exact absurd rfl hNonzero
    split
    · rename_i hKept
      split
      · rename_i hMemory
        refine .stored _ _ hAccepts ?_ hKept hSome (queuedMessage_dup hSome a.data)
        dsimp only
        rw [hMemory]
      · rename_i hMemory
        refine .full _ _ hAccepts ?_
        rw [Bool.eq_false_of_not_eq_true hMemory]
    · rename_i hDirect
      exact .direct _ _ (fun hQos => hDirect (Or.inl hQos)) rfl

theorem Acts.enqueue (a : MqttClient.PublishArgs) (store : Bool)
    (hUnused : fresh → ∀ other ∈ c.store.outbox, other.msgId ≠ a.random.toNat) :
    Acts fresh (some a.random.toNat) ack c.store (c.enqueue a store).store := by
  have hCases := enqueuePriv_cases c a store hUnused
  rw [MqttClient.enqueue]
  revert hCases
  rcases c.enqueuePriv a store with ⟨msgId, item, c'⟩
  intro hCases
  cases hCases with
  | failed _ h =>
    rw [h]
    exact .of_moves .refl
  | full _ item hAccepts h =>
    rw [h]
    exact ⟨_, hAccepts.intake false, .refl⟩
  | stored _ item hAccepts h =>
    rw [h]
    exact ⟨_, hAccepts.intake true, .refl⟩
  | direct _ _ _ h =>
    rw [h]
    exact .of_moves .refl

theorem Store.setPending_setTick (s : Store) (msgId tick : Nat) (pending : Pending) :
    (s.setTick msgId tick).setPending msgId pending =
      (s.setPending msgId pending).setTick msgId tick := by
  have hTick : outboxSetPending (outboxSetTick s.outbox msgId tick) msgId pending =
      updateFirst (fun item => item.msgId = msgId)
        (fun item => { item with tick := tick, pending := pending }) s.outbox := by
    apply updateFirst_updateFirst
    exact fun _ => rfl
  have hPending : outboxSetTick (outboxSetPending s.outbox msgId pending) msgId tick =
      updateFirst (fun item => item.msgId = msgId)
        (fun item => { item with tick := tick, pending := pending }) s.outbox := by
    apply updateFirst_updateFirst
    exact fun _ => rfl
  exact congrArg (fun outbox => { s with outbox := outbox }) (hTick.trans hPending.symm)

/-- The writes of a call, as one: nothing where the transport is closed. -/
theorem sendPublish_cases {c : MqttClient} {returns : List Int} {data : List UInt8}
    {item : Option OutboxItem} {now : Nat} {sent : Bool × MqttClient}
    (h : c.sendPublish returns data item now = some sent) :
    sent.2.store = c.store ∧ sent.1 = false ∨
      ∃ w : Write, sent.2.store = c.store.log w ∧ w.item = item ∧ w.ok = sent.1 ∧
        (c.connection.message.data ≠ [] → w.bytes ≠ [] →
          getDup w.bytes = getDup c.connection.message.data) := by
  rw [MqttClient.sendPublish] at h
  split at h
  · obtain ⟨bytes, hBytes, rfl⟩ := Option.map_eq_some_iff.mp h
    refine Or.inr ⟨⟨item, bytes.bytes, bytes.ok⟩, ?_, rfl, rfl, sendMessage_head hBytes⟩
    dsimp only
    split
    · rfl
    · rfl
  · cases h
    exact Or.inl ⟨rfl, rfl⟩

theorem Acts.publish (hWf : c.store.Wellformed fresh) {c' : MqttClient}
    (a : MqttClient.PublishArgs) (returns : List Int) (now : Nat)
    (hUnused : fresh → ∀ other ∈ c.store.outbox, other.msgId ≠ a.random.toNat)
    (h : c.publish a returns now = some c') :
    Acts fresh (some a.random.toNat) ack c.store c'.store := by
  have hCases := enqueuePriv_cases c a false hUnused
  rw [MqttClient.publish] at h
  revert hCases h
  rcases c.enqueuePriv a false with ⟨msgId, item, c₁⟩
  intro h hCases
  cases hCases with
  | failed _ hStore =>
    cases h
    rw [hStore]
    exact .of_moves .refl
  | full _ item hAccepts hStore =>
    cases h
    rw [hStore]
    exact ⟨_, hAccepts.intake false, .refl⟩
  | direct _ _ hQos hStore =>
    dsimp only at h
    rw [← hStore]
    split at h
    · cases h
      exact .of_moves (.single (.deleteExpired now))
    · obtain ⟨⟨ok, c₂⟩, hSent, rfl⟩ := Option.map_eq_some_iff.mp h
      have hTail : Moves fresh ack c₁.store c₂.store := by
        rcases sendPublish_cases hSent with ⟨hSame, -⟩ | ⟨w, hLog, hItem, -⟩
        · rw [hSame]
        · rw [hLog]
          exact .single (.write_none hItem)
      refine .of_moves ?_
      dsimp only
      split
      · exact hTail
      · exact hTail
  | stored _ item hAccepts hStore hKept hBuilt hDup =>
    dsimp only at h
    refine ⟨c₁.store, hStore ▸ hAccepts.intake true, ?_⟩
    have hWf₁ : c₁.store.Wellformed fresh := hStore ▸ (hAccepts.intake true).wellformed hWf
    have hItem : item ∈ c₁.store.outbox := hStore ▸ mem_accept c.store item
    split at h
    · cases h
      exact .single (.deleteExpired now)
    · obtain ⟨⟨ok, c₂⟩, hSent, rfl⟩ := Option.map_eq_some_iff.mp h
      dsimp only
      rcases sendPublish_cases hSent with ⟨hSame, hFailed⟩ | ⟨w, hLog, hFor, hOk, hHead⟩
      · dsimp only at hSame hFailed
        rw [hFailed, if_neg Bool.false_ne_true]
        change Moves fresh ack c₁.store c₂.store
        rw [hSame]
      · have hWrite : WriteFor fresh c₁.store.outbox w := by
          intro item' hItem'
          rw [hFor] at hItem'
          cases hItem'
          refine ⟨item, hItem, .refl item, fun hFresh _ hSome => Or.inl ⟨?_, ?_⟩⟩
          · exact (hAccepts.new hFresh).pending
          · rw [hHead hBuilt hSome, hDup]
        dsimp only at hLog hOk
        cases hSuccess : ok
        · rw [if_neg Bool.false_ne_true]
          change Moves fresh ack c₁.store c₂.store
          rw [hLog]
          refine .single (.write w hWrite fun _ _ _ _ _ hComplete => ?_)
          rw [hSuccess] at hOk
          exact Bool.false_ne_true (hOk.symm.trans hComplete.1)
        · have hHandle : w.item.map OutboxItem.handle = some item.handle := by
            rw [hFor]
            rfl
          have hQos : a.qos > 0 := hKept.resolve_right Bool.false_ne_true
          have hTransmit : Move fresh ack c₁.store { c₁.store with
              outbox := outboxSetPending c₁.store.outbox item.msgId .transmitted
              writes := c₁.store.writes ++ [w] } :=
            .transmit hWf₁ hItem hHandle (fun _ _ => hOk.trans hSuccess) hWrite
          rw [if_pos rfl, if_pos hQos, hLog]
          rw [Store.setPending_setTick]
          exact (Relation.ReflTransGen.single hTransmit).tail (.setTick item.msgId now)

theorem Acts.subscribeWith (hWf : c.store.Wellformed fresh) {built : MqttConnection × Nat}
    {type : MessageType} {random : MessageId} (hType : type ≠ .publish)
    (hBuilt : built.1.message.data ≠ [] → Headed type built.1.message.data ∧
      built.2 = random.toNat) (memory : Bool) (returns : List Int) (now : Nat)
    (hUnused : fresh → ∀ other ∈ c.store.outbox, other.msgId ≠ random.toNat) :
    Acts fresh (some random.toNat) ack c.store
      (c.subscribeWith built memory returns now).store := by
  rw [MqttClient.subscribeWith]
  split
  · exact .of_moves .refl
  · dsimp only
    split
    · exact .of_moves .refl
    · rename_i hSome
      obtain ⟨⟨hHead, hDup⟩, hId⟩ := hBuilt hSome
      generalize hItem : MqttClient.newItem _ built.1.message.data built.2 c.pendingPublishQos now =
        item
      have hMsgId : item.msgId = random.toNat := by
        rw [← hItem]
        exact hId
      have hUnimportant : ¬ item.Important := by
        rintro ⟨hPublish, -⟩
        rw [← hItem] at hPublish
        exact hType (Option.some.inj (hHead.symm.trans hPublish))
      have hAccepts : Accepts fresh (some random.toNat) c.store item := by
        refine ⟨by rw [← hItem]; rfl, fun _ => by rw [hMsgId], fun hFresh => ?_⟩
        refine ⟨by rw [← hItem]; rfl, fun h => absurd h hUnimportant,
          fun h => absurd h hUnimportant, fun _ other hOther => ?_⟩
        rw [hMsgId]
        exact hUnused hFresh other hOther
      cases memory
      · exact ⟨_, hAccepts.intake false, .refl⟩
      · refine ⟨_, hAccepts.intake true, ?_⟩
        have hWfItem := (hAccepts.intake true).wellformed hWf
        have hMem := mem_accept c.store item
        rw [if_pos rfl]
        generalize hClient : ({ c with connection := built.1, store := _ } : MqttClient) = c₁
        have hStore : c₁.store = (c.store.accept item true).setPending item.msgId .transmitted := by
          rw [← hClient, hMsgId, ← hId]
        rcases writeData_cases c₁ returns now (some item) with
          ⟨hSame, -⟩ | ⟨w, hLog, hFor, -, -⟩
        · rw [hSame, hStore]
          refine .single (.setUnimportant hWfItem item.msgId nofun ?_)
          intro hFresh other hOther hImportant hOtherId _
          have hEq := hWfItem.same_id hFresh hOther hMem hOtherId
            (hWfItem.named hFresh other hOther hImportant)
          rw [hEq] at hImportant
          exact hUnimportant hImportant
        · rw [hLog, hStore]
          have hHandle : w.item.map OutboxItem.handle = some item.handle := by
            rw [hFor]
            rfl
          refine .single (.transmit hWfItem hMem hHandle
            (fun _ hImportant => absurd hImportant hUnimportant) ?_)
          intro item' hItem'
          rw [hFor] at hItem'
          cases hItem'
          exact ⟨item, hMem, .refl item, fun _ hImportant => absurd hImportant hUnimportant⟩

/-! ## The step -/

theorem step_acts (hWf : c.store.Wellformed fresh) (a : ClientAction) {c' : MqttClient}
    (hUnused : fresh → a.Unused c.store) (h : c.step a = some c') :
    Acts fresh a.drawn a.ack c.store c'.store := by
  cases a with
  | publish a returns now =>
    exact .publish hWf a returns now (fun hFresh => hUnused hFresh _ rfl) h
  | enqueue a store =>
    cases h
    exact .enqueue a store fun hFresh => hUnused hFresh _ rfl
  | subscribe random topic qos memory returns now =>
    cases h
    exact .subscribeWith hWf (by decide)
      (topicMessage_built random c.connection .subscribe topic _) memory returns now
      fun hFresh => hUnused hFresh _ rfl
  | unsubscribe random topic memory returns now =>
    cases h
    exact .subscribeWith hWf (by decide)
      (topicMessage_built random c.connection .unsubscribe topic _) memory returns now
      fun hFresh => hUnused hFresh _ rfl
  | round r =>
    cases h
    split
    · refine .of_moves (.connectedRound hWf r fun a hStays hMessage => ?_)
      rw [ClientAction.ack, hStays, hMessage]
    · exact .of_moves .refl
  | connect accepted now =>
    cases h
    refine .of_moves ?_
    split
    · cases accepted with
      | none => exact .refl
      | some connection => exact .refl
    · exact .refl
  | wait now =>
    cases h
    refine .of_moves ?_
    split
    · rw [MqttClient.waitRound]
      split
      · exact .refl
      · exact .refl
    · exact .refl
  | pollFailed now =>
    cases h
    refine .of_moves ?_
    split
    · exact .refl
    · exact .refl
  | stop returns now =>
    cases h
    exact .of_moves (.stop c returns now)
  | finish =>
    cases h
    refine .of_moves ?_
    split
    · exact .refl
    · exact .single .clear
  | start =>
    cases h
    refine .of_moves ?_
    split
    · exact .refl
    · rw [MqttClient.start]
      split
      · exact .refl
      · exact .refl

end Moves

end FcomGateway.Mqtt
