import FcomGateway.MqttBuffer
import FcomGateway.MqttClient

/-! # The client on a connection

`mqtt_process_receive` reads a message and then handles it. What it reads it takes from the stream
in pieces; here the bytes of a connection come to what its messages come to when the client is
handed them one by one, until it gives up at one of them.
-/

namespace FcomGateway.Mqtt

/-! ## The output buffer of the client -/

namespace MqttClient

/-- What the writes of a publication meet. -/
def online (c : MqttClient) (returns : List Int) : Option (List Int) :=
  if c.state = .connected then some (if c.transportOpen then returns else []) else none

theorem enqueuePriv_connection (c : MqttClient) (a : PublishArgs) (store : Bool) :
    ((c.enqueuePriv a store).1, (c.enqueuePriv a store).2.2.connection) =
      clientEnqueue a.random a.memory store c.connection a.topic a.data a.qos a.retain := by
  rw [enqueuePriv, clientEnqueue]
  dsimp only
  split
  · rfl
  · split
    · cases a.memory <;> rfl
    · rfl

theorem enqueuePriv_frame (c : MqttClient) (a : PublishArgs) (store : Bool) :
    (c.enqueuePriv a store).2.2.state = c.state ∧
      (c.enqueuePriv a store).2.2.transportOpen = c.transportOpen ∧
      (c.enqueuePriv a store).2.2.store.writes = c.store.writes ∧
      ((c.enqueuePriv a store).1 ≠ none →
        (c.enqueuePriv a store).2.2.connection.message.data ≠ []) := by
  rw [enqueuePriv]
  dsimp only
  split
  · exact ⟨rfl, rfl, rfl, fun h => absurd rfl h⟩
  · rename_i hSome
    split
    · cases a.memory with
      | true => exact ⟨rfl, rfl, rfl, fun _ => hSome⟩
      | false => exact ⟨rfl, rfl, rfl, fun h => absurd rfl h⟩
    · exact ⟨rfl, rfl, rfl, fun _ => hSome⟩

/-- The client leaves its output buffer as `clientEnqueue` does. -/
theorem enqueue_connection (c : MqttClient) (a : PublishArgs) (store : Bool) :
    (c.enqueue a store).connection =
      (clientEnqueue a.random a.memory store c.connection a.topic a.data a.qos a.retain).2 := by
  rw [enqueue, ← enqueuePriv_connection]

/-- The bytes of the writes that a client has made since. -/
def written (c next : MqttClient) : List UInt8 :=
  (next.store.writes.drop c.store.writes.length).flatMap Write.bytes

/-- The client has the output buffer of the call behind it, and has written what the call sends. -/
def Sends (c : MqttClient) (call : Option Sent × MqttConnection) : Option MqttClient → Prop
  | none => call.1 = none
  | some next =>
    next.connection = call.2 ∧ call.1.map Sent.bytes = some (c.written next)

theorem publish_connection (c : MqttClient) (a : PublishArgs) (returns : List Int) (now : Nat) :
    c.Sends (clientPublish a.random a.memory (c.online returns) c.connection a.topic a.data a.qos
      a.retain) (c.publish a returns now) := by
  obtain ⟨hState, hOpen, hWrites, hBuilt⟩ := enqueuePriv_frame c a false
  have hNothing : ∀ c' : MqttClient, c'.store.writes = c.store.writes → c.written c' = [] := by
    intro c' hSame
    rw [written, hSame, List.drop_length]
    rfl
  rw [publish, clientPublish, ← enqueuePriv_connection]
  generalize c.enqueuePriv a false = enqueued at hState hOpen hWrites hBuilt ⊢
  obtain ⟨id, item, built⟩ := enqueued
  dsimp only at hState hOpen hWrites hBuilt ⊢
  cases id with
  | none => exact ⟨rfl, congrArg some (hNothing built hWrites).symm⟩
  | some msgId =>
    by_cases hOnline : built.state = .connected
    · rw [online, if_pos (hState ▸ hOnline), ← hOpen]
      have hAfter : ∀ (w : Write) (c' : MqttClient),
          c'.store.writes = built.store.writes ++ [w] → c.written c' = w.bytes := by
        intro w c' hLogged
        rw [written, hLogged, hWrites, List.drop_left]
        exact List.append_nil _
      dsimp only
      rw [if_neg (not_not.mpr hOnline), sendPublish]
      by_cases hThere : built.transportOpen = true
      · rw [if_pos hThere, if_pos hThere]
        generalize sendMessage returns built.connection a.data = sent
        obtain ⟨sent, connection⟩ := sent
        cases sent with
        | none => rfl
        | some sent =>
          dsimp only [Option.map_some]
          cases sent.ok with
          | true =>
            rw [if_pos rfl, if_pos rfl]
            split
            · exact ⟨rfl, congrArg some (hAfter ⟨item, sent.bytes, true⟩ _ rfl).symm⟩
            · exact ⟨rfl, congrArg some (hAfter ⟨item, sent.bytes, true⟩ _ rfl).symm⟩
          | false =>
            rw [if_neg Bool.false_ne_true, if_neg Bool.false_ne_true]
            exact ⟨rfl, congrArg some (hAfter ⟨item, sent.bytes, false⟩ _ rfl).symm⟩
      · have hFailed : ¬ (espMqttWrite [] built.connection.message.data).ok = true := by
          rw [espMqttWrite, List.isEmpty_iff]
          exact hBuilt fun hNone => by cases hNone
        rw [if_neg hThere, if_neg hThere, Publish.sendMessage_failed hFailed]
        exact ⟨rfl, congrArg some (hNothing _ hWrites).symm⟩
    · rw [online, if_neg (hState ▸ hOnline)]
      dsimp only
      rw [if_pos hOnline]
      exact ⟨rfl, congrArg some (hNothing _ hWrites).symm⟩

end MqttClient

/-! ## Handling what was read -/

open MqttClient (Round)

/-- A client that can answer every message, and expects no acknowledgement. -/
structure MqttClient.Ready (c : MqttClient) : Prop where
  room : 7 ≤ c.connection.bufferLength
  whole : c.connection.Whole
  built : c.connection.message.data ≠ []
  open_ : c.transportOpen = true
  settled : c.store.pendingMsgCount = 0

namespace MqttClient.Ready

variable {c : MqttClient} {r : Round}

theorem answer (h : c.Ready) (type : MessageType) (qos id : Nat) {connection : MqttConnection}
    (hBuilt : connection = idMessage r.random c.connection type qos id) :
    ({ c with connection := connection } : MqttClient).Ready ∧
      connection.message.data.length = 4 := by
  have hSize : (bigEndian (if id = 0 then r.random.toNat else id)).length < 128 ^ 4 := by
    rw [bigEndian_length]
    decide
  have hLength : ∀ n, (frame (typeByte type 0 qos 0) (bigEndian n)).length = 4 := by
    intro n
    rw [frame_length, headerLength, bigEndian_length, Varint.encode_of_lt (by decide)]
    rfl
  rw [hBuilt, idMessage_eq h.room, finiMessage_whole h.whole hSize]
  exact ⟨⟨h.room, h.whole, List.cons_ne_nil _ _, h.open_, h.settled⟩, hLength _⟩

theorem writeData (h : c.Ready) (hLength : c.connection.message.data.length = 4) (now : Nat) :
    (c.writeData [4] now none).1 = true ∧ (c.writeData [4] now none).2.Ready := by
  have hSent := espMqttWrite_once h.built []
  rw [hLength] at hSent
  have hOnce : espMqttWrite [4] c.connection.message.data =
      ⟨true, c.connection.message.data, []⟩ := hSent
  rw [MqttClient.writeData, if_pos h.open_, hOnce]
  exact ⟨rfl, ⟨h.room, h.whole, h.built, h.open_, h.settled⟩⟩

theorem isValidMqttMsg (h : c.Ready) (type : MessageType) (id : Nat) :
    c.isValidMqttMsg type id = (false, c) := by
  rw [MqttClient.isValidMqttMsg, Store.acknowledge, if_pos h.settled]

theorem build_eq {connection : MqttConnection} (hBuilt : connection.message.data ≠ []) :
    c.build connection = (true, { c with connection := connection }) :=
  congrArg (·, { c with connection := connection }) (decide_eq_true hBuilt)

theorem processMessage (h : c.Ready) (hAnswer : r.answer = [4]) (a : Arrival) :
    (c.processMessage r a).1 = true ∧ (c.processMessage r a).2.Ready := by
  rw [MqttClient.processMessage, hAnswer]
  dsimp only
  split
  · rw [h.isValidMqttMsg]
    exact ⟨rfl, h⟩
  · rw [h.isValidMqttMsg]
    exact ⟨rfl, h⟩
  · obtain ⟨hPuback, hPubackLength⟩ := h.answer (r := r) .puback 0
      (mqttGetId a.bytes a.messageLength) rfl
    obtain ⟨hPubrec, hPubrecLength⟩ := h.answer (r := r) .pubrec 0
      (mqttGetId a.bytes a.messageLength) rfl
    by_cases hOne : getQos a.bytes = 1
    · simp only [hOne, if_true, true_or]
      rw [if_neg (by exact hPuback.built)]
      exact hPuback.writeData hPubackLength _
    · by_cases hTwo : getQos a.bytes = 2
      · simp only [hTwo, if_true, or_true, if_neg (show ¬ 2 = 1 by decide)]
        rw [if_neg (by exact hPubrec.built)]
        exact hPubrec.writeData hPubrecLength _
      · simp only [hOne, hTwo, if_false, or_self]
        rw [if_neg h.built]
        exact ⟨rfl, h⟩
  · rw [h.isValidMqttMsg]
    exact ⟨rfl, h⟩
  · rw [h.isValidMqttMsg]
    exact ⟨rfl, h⟩
  · obtain ⟨hBuilt, hLength⟩ := h.answer (r := r) .pubrel 1
      (mqttGetId a.bytes a.messageLength) rfl
    rw [build_eq (by exact hBuilt.built)]
    have hPending : ({ c with
        connection := idMessage r.random c.connection .pubrel 1
          (mqttGetId a.bytes a.messageLength)
        store := c.store.setPending (mqttGetId a.bytes a.messageLength) .acknowledged } :
          MqttClient).Ready :=
      ⟨hBuilt.room, hBuilt.whole, hBuilt.built, h.open_, h.settled⟩
    exact ⟨rfl, (hPending.writeData hLength _).2⟩
  · obtain ⟨hBuilt, hLength⟩ := h.answer (r := r) .pubcomp 0
      (mqttGetId a.bytes a.messageLength) rfl
    rw [build_eq (by exact hBuilt.built)]
    exact ⟨rfl, (hBuilt.writeData hLength _).2⟩
  · exact ⟨rfl, ⟨h.room, h.whole, h.built, h.open_, h.settled⟩⟩
  · exact ⟨rfl, h⟩

end MqttClient.Ready

section Reception

variable {inBufferLength : Nat} {messages : List Incoming}

end Reception

end FcomGateway.Mqtt
