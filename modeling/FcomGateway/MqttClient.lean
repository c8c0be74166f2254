import FcomGateway.MqttDelivery
import FcomGateway.MqttOutbox

/-! # The MQTT client

The functions of `mqtt_client.c` around the outbox: publishing and subscribing, and the loop of
`esp_mqtt_task`. They all hold the lock of the client, so they follow one another.
-/

namespace FcomGateway.Mqtt

def OUTBOX_EXPIRED_TIMEOUT_MS : Nat := 30 * 1000
def MESSAGE_RETRANSMIT_TIMEOUT : Nat := 1000
def KEEPALIVE : Nat := 60
def RECONNECT_TIMEOUT_MS : Nat := 10 * 1000

inductive ClientState
  | init
  | connected
  | waitReconnect
  | disconnected
  deriving DecidableEq, Repr

inductive MqttEvent
  | beforeConnect
  | connected
  | disconnected
  | subscribed (msgId : Nat)
  | unsubscribed (msgId : Nat)
  | published (msgId : Nat)
  deriving DecidableEq, Repr

structure Write where
  item : Option OutboxItem
  bytes : List UInt8
  ok : Bool

/-- The outbox and what is counted of it; `pendingMsgCount` is the `int` of the client for fewer
than `2 ^ 31` messages. The other fields are its past: the writes, and the handles of the items that
have left it. -/
structure Store where
  outbox : Outbox
  pendingMsgCount : Nat
  nextHandle : Nat
  writes : List Write
  acknowledged : List Nat
  expired : List Nat
  handed : List Nat
  cleared : List Nat

structure MqttClient where
  connection : MqttConnection
  state : ClientState
  running : Bool
  transportOpen : Bool
  store : Store
  pendingPublishQos : Nat
  waitForPingResp : Bool
  keepaliveTick : Nat
  lastRetransmit : Nat
  reconnectTick : Nat
  events : List MqttEvent

namespace Store

def log (s : Store) (w : Write) : Store := { s with writes := s.writes ++ [w] }

def setPending (s : Store) (msgId : Nat) (pending : Pending) : Store :=
  { s with outbox := outboxSetPending s.outbox msgId pending }

def setTick (s : Store) (msgId tick : Nat) : Store :=
  { s with outbox := outboxSetTick s.outbox msgId tick }

def setData (s : Store) (item : OutboxItem) (data : List UInt8) : Store :=
  { s with
    outbox := updateFirst (fun other => other.handle = item.handle)
      (fun other => { other with data := data }) s.outbox }

/-- `outbox_enqueue`, behind the count of a pending message; there may be no memory for the item. -/
def accept (s : Store) (item : OutboxItem) (memory : Bool) : Store :=
  let s := { s with pendingMsgCount := s.pendingMsgCount + 1 }
  if memory then { s with outbox := s.outbox ++ [item], nextHandle := s.nextHandle + 1 } else s

/-- `is_valid_mqtt_msg`; `none` is the answer no. -/
def acknowledge (s : Store) (msgType : MessageType) (msgId : Nat) : Option Store :=
  if s.pendingMsgCount = 0 then none
  else
    (outboxDelete s.outbox msgId msgType).map fun deleted =>
      { s with
        outbox := deleted.2
        pendingMsgCount := s.pendingMsgCount - 1
        acknowledged := s.acknowledged ++ [deleted.1.handle] }

def deleteExpired (s : Store) (now : Nat) : Store :=
  let deleted := s.outbox.filter fun item => item.Expired now OUTBOX_EXPIRED_TIMEOUT_MS
  { s with
    outbox := outboxDeleteExpired s.outbox now OUTBOX_EXPIRED_TIMEOUT_MS
    pendingMsgCount := s.pendingMsgCount - deleted.length
    expired := s.expired ++ deleted.map OutboxItem.handle }

/-- A message without quality of service leaves the outbox when it was sent. -/
def hand (s : Store) (item : OutboxItem) : Store :=
  match outboxDeleteItem s.outbox item with
  | none => s
  | some (deleted, outbox) =>
    { s with outbox := outbox, handed := s.handed ++ [deleted.handle] }

def clear (s : Store) : Store :=
  { s with outbox := [], cleared := s.cleared ++ s.outbox.map OutboxItem.handle }

end Store

namespace MqttClient

def dispatch (c : MqttClient) (event : MqttEvent) : MqttClient :=
  { c with events := c.events ++ [event] }

def writeData (c : MqttClient) (returns : List Int) (now : Nat) (item : Option OutboxItem) :
    Bool × MqttClient :=
  if c.transportOpen then
    let sent := espMqttWrite returns c.connection.message.data
    let c := { c with store := c.store.log ⟨item, sent.bytes, sent.ok⟩ }
    (sent.ok, if sent.ok then { c with keepaliveTick := now } else c)
  else (false, c)

def abortConnection (c : MqttClient) (now : Nat) : MqttClient :=
  { c with
    transportOpen := false
    reconnectTick := now
    state := .waitReconnect
    waitForPingResp := false }.dispatch .disconnected

def isValidMqttMsg (c : MqttClient) (msgType : MessageType) (msgId : Nat) : Bool × MqttClient :=
  match c.store.acknowledge msgType msgId with
  | none => (false, c)
  | some store => (true, { c with store := store })

structure PublishArgs where
  topic : List UInt8
  data : List UInt8
  qos : Nat
  retain : Nat
  random : MessageId
  memory : Bool
  now : Nat

def newItem (c : MqttClient) (data : List UInt8) (msgId qos now : Nat) : OutboxItem where
  handle := c.store.nextHandle
  data := data
  msgId := msgId
  msgType := getType c.connection.message.data
  msgQos := qos
  tick := now
  pending := .queued

/-- `mqtt_client_enqueue_priv`: the identifier, where it is not -1, and the item. -/
def enqueuePriv (c : MqttClient) (a : PublishArgs) (store : Bool) :
    Option Nat × Option OutboxItem × MqttClient :=
  let (connection, msgId) := mqttMsgPublish a.random c.connection a.topic a.data a.qos a.retain
  let c := { c with connection := connection }
  if connection.message.data = [] then (none, none, c)
  else if a.qos > 0 ∨ store then
    let item := c.newItem (queuedMessage connection a.data) msgId a.qos a.now
    let c := { c with
      pendingPublishQos := a.qos
      store := c.store.accept item a.memory }
    if a.memory then
      (some msgId, some item, { c with
        connection := { connection with message :=
          { connection.message with fragmentedMsgTotalLength := 0 } } })
    else (none, none, c)
  else (some msgId, none, c)

def enqueue (c : MqttClient) (a : PublishArgs) (store : Bool) : MqttClient :=
  (c.enqueuePriv a store).2.2

/-- The writes of `esp_mqtt_client_publish`; `none` is a copy from before the payload. -/
def sendPublish (c : MqttClient) (returns : List Int) (data : List UInt8)
    (item : Option OutboxItem) (now : Nat) : Option (Bool × MqttClient) :=
  if c.transportOpen then
    let (sent, connection) := sendMessage returns c.connection data
    let c := { c with connection := connection }
    sent.map fun sent =>
      let c := { c with store := c.store.log ⟨item, sent.bytes, sent.ok⟩ }
      (sent.ok, if sent.ok then { c with keepaliveTick := now } else c)
  else
    some (false,
      { c with connection := c.connection.settle c.connection.message.fragmentedMsgDataOffset })

def publish (c : MqttClient) (a : PublishArgs) (returns : List Int) (now : Nat) :
    Option MqttClient :=
  match c.enqueuePriv a false with
  | (none, _, c) => some c
  | (some msgId, item, c) =>
    if c.state ≠ .connected then
      some { c with
        connection := c.connection.settle c.connection.message.fragmentedMsgDataOffset
        store := c.store.deleteExpired now }
    else
      (c.sendPublish returns a.data item now).map fun sent =>
        let c := sent.2
        if sent.1 then
          if a.qos > 0 then
            { c with store := (c.store.setTick msgId now).setPending msgId .transmitted }
          else c
        else c.abortConnection now

/-- `esp_mqtt_client_subscribe` and `esp_mqtt_client_unsubscribe` -/
def subscribeWith (c : MqttClient) (built : MqttConnection × Nat) (memory : Bool)
    (returns : List Int) (now : Nat) : MqttClient :=
  if c.state ≠ .connected then c
  else
    let c := { c with connection := built.1 }
    if built.1.message.data = [] then c
    else
      let item := c.newItem built.1.message.data built.2 c.pendingPublishQos now
      let c := { c with store := c.store.accept item memory }
      if memory then
        let c := { c with store := c.store.setPending built.2 .transmitted }
        (c.writeData returns now (some item)).2
      else c

def subscribe (c : MqttClient) (random : MessageId) (topic : List UInt8) (qos : Nat)
    (memory : Bool) (returns : List Int) (now : Nat) : MqttClient :=
  c.subscribeWith (mqttMsgSubscribe random c.connection topic qos) memory returns now

def unsubscribe (c : MqttClient) (random : MessageId) (topic : List UInt8) (memory : Bool)
    (returns : List Int) (now : Nat) : MqttClient :=
  c.subscribeWith (mqttMsgUnsubscribe random c.connection topic) memory returns now

/-! ## The task -/

/-- The times that one round of the task reads, one after the other. -/
structure Ticks where
  receive : Nat
  expire : Nat
  compare : Nat
  retransmit : Nat
  resend : Nat
  keepalive : Nat
  ping : Nat
  receive_le : receive ≤ expire
  expire_le : expire ≤ compare
  compare_le : compare ≤ retransmit
  retransmit_le : retransmit ≤ resend
  resend_le : resend ≤ keepalive
  keepalive_le : keepalive ≤ ping

structure Round where
  disconnect : Bool
  incoming : Framing.Outcome Arrival
  random : MessageId
  answer : List Int
  resend : List Int
  ping : List Int
  ticks : Ticks

/-- The message that was built, or -1 when it could not be built. -/
def build (c : MqttClient) (connection : MqttConnection) : Bool × MqttClient :=
  (connection.message.data ≠ [], { c with connection := connection })

/-- `mqtt_process_receive` behind the reading; `false` is `ESP_FAIL`. -/
def processMessage (c : MqttClient) (r : Round) (a : Arrival) : Bool × MqttClient :=
  let msgId := mqttGetId a.bytes a.messageLength
  let answer := fun c : MqttClient => c.writeData r.answer r.ticks.receive none
  match getType a.bytes with
  | some .suback =>
    match c.isValidMqttMsg .subscribe msgId with
    | (false, c) => (true, c)
    | (true, c) =>
      if mqttGetSubackData a.bytes a.bytes.length = [] then (false, c)
      else (true, c.dispatch (.subscribed msgId))
  | some .unsuback =>
    match c.isValidMqttMsg .unsubscribe msgId with
    | (false, c) => (true, c)
    | (true, c) => (true, c.dispatch (.unsubscribed msgId))
  | some .publish =>
    let c := if getQos a.bytes = 1 then (c.build (mqttMsgPuback r.random c.connection msgId)).2
      else if getQos a.bytes = 2 then (c.build (mqttMsgPubrec r.random c.connection msgId)).2
      else c
    if c.connection.message.data = [] then (false, c)
    else if getQos a.bytes = 1 ∨ getQos a.bytes = 2 then answer c
    else (true, c)
  | some .puback | some .pubcomp =>
    match c.isValidMqttMsg .publish msgId with
    | (false, c) => (true, c)
    | (true, c) => (true, c.dispatch (.published msgId))
  | some .pubrec =>
    match c.build (mqttMsgPubrel r.random c.connection msgId) with
    | (false, c) => (false, c)
    | (true, c) =>
      (true, (answer { c with store := c.store.setPending msgId .acknowledged }).2)
  | some .pubrel =>
    match c.build (mqttMsgPubcomp r.random c.connection msgId) with
    | (false, c) => (false, c)
    | (true, c) => (true, (answer c).2)
  | some .pingresp => (true, { c with waitForPingResp := false })
  | _ => (true, c)

def resendQueued (c : MqttClient) (item : OutboxItem) (returns : List Int) (now : Nat) :
    Bool × MqttClient :=
  let again := item.msgType = some .publish ∧ item.msgQos > 0 ∧ item.pending = .transmitted
  let data := if again then setDup item.data else item.data
  let c := { c with
    connection := { c.connection with message := { c.connection.message with data := data } }
    pendingPublishQos := item.msgQos
    store := c.store.setData item data }
  let (ok, c) := c.writeData returns now (some item)
  if ok then
    if item.msgType = some .publish ∧ item.msgQos = 0 then
      (true, { c with store := c.store.hand item })
    else (true, c)
  else (false, c.abortConnection now)

/-- The part of the round that sends again what is in the outbox. -/
def resend (c : MqttClient) (r : Round) : MqttClient :=
  match outboxDequeue c.store.outbox .queued with
  | some item =>
    let (ok, c) := c.resendQueued item r.resend r.ticks.resend
    if ok then { c with store := c.store.setPending item.msgId .transmitted } else c
  | none =>
    if c.lastRetransmit + MESSAGE_RETRANSMIT_TIMEOUT < r.ticks.compare then
      let c := { c with lastRetransmit := r.ticks.retransmit }
      match outboxDequeue c.store.outbox .transmitted with
      | none => c
      | some item =>
        if item.tick + MESSAGE_RETRANSMIT_TIMEOUT < r.ticks.retransmit then
          (c.resendQueued item r.resend r.ticks.resend).2
        else c
    else c

def keepAlive (c : MqttClient) (r : Round) : MqttClient :=
  if c.keepaliveTick + KEEPALIVE * 1000 / 2 < r.ticks.keepalive then
    if c.waitForPingResp then
      { c.abortConnection r.ticks.ping with waitForPingResp := false }
    else
      match c.build (mqttMsgPingreq c.connection) with
      | (false, c) => c.abortConnection r.ticks.ping
      | (true, c) =>
        match c.writeData r.ping r.ticks.ping none with
        | (false, c) => c.abortConnection r.ticks.ping
        | (true, c) => { c with waitForPingResp := true }
  else c

/-- A round of the task in `MQTT_STATE_CONNECTED`. -/
def connectedRound (c : MqttClient) (r : Round) : MqttClient :=
  if r.disconnect then
    let (built, c) := c.build (mqttMsgDisconnect c.connection)
    let c := if built then (c.writeData r.answer r.ticks.receive none).2 else c
    c.abortConnection r.ticks.receive
  else
    let received := match r.incoming with
      | .failed => (false, c)
      | .nothing => (true, c)
      | .message a => c.processMessage r a
    match received with
    | (false, c) => c.abortConnection r.ticks.receive
    | (true, c) =>
      ({ c with store := c.store.deleteExpired r.ticks.expire }.resend r).keepAlive r

/-- `MQTT_STATE_INIT`: the connection with its `CONNECT` in the buffer, where it was accepted. -/
def initRound (c : MqttClient) (accepted : Option MqttConnection) (now : Nat) : MqttClient :=
  let c := c.dispatch .beforeConnect
  match accepted with
  | none => c.abortConnection now
  | some connection =>
    { c with
      connection := connection
      transportOpen := true
      waitForPingResp := false
      state := .connected }.dispatch .connected

def waitRound (c : MqttClient) (now : Nat) : MqttClient :=
  if c.reconnectTick + RECONNECT_TIMEOUT_MS < now then
    { c with state := .init, reconnectTick := now }
  else c

/-- `esp_mqtt_client_stop`, up to its wait for the task. -/
def stop (c : MqttClient) (returns : List Int) (now : Nat) : MqttClient :=
  if c.running then
    let (built, c) := if c.state = .connected then
        let (built, c) := c.build (mqttMsgDisconnect c.connection)
        (built, if built then (c.writeData returns now none).2 else c)
      else (true, c)
    if built then { c with running := false, state := .disconnected } else c
  else c

/-- What `esp_mqtt_task` does behind its loop. -/
def finish (c : MqttClient) : MqttClient :=
  { c with
    transportOpen := false
    store := c.store.clear }

/-- `esp_mqtt_client_start` when no task is there. -/
def start (c : MqttClient) : MqttClient :=
  if c.state = .init ∨ c.state = .disconnected then
    { c with running := true, state := .init, lastRetransmit := 0 }
  else c

end MqttClient

inductive ClientAction
  | publish (a : MqttClient.PublishArgs) (returns : List Int) (now : Nat)
  | enqueue (a : MqttClient.PublishArgs) (store : Bool)
  | subscribe (random : MessageId) (topic : List UInt8) (qos : Nat) (memory : Bool)
      (returns : List Int) (now : Nat)
  | unsubscribe (random : MessageId) (topic : List UInt8) (memory : Bool) (returns : List Int)
      (now : Nat)
  | round (r : MqttClient.Round)
  | connect (accepted : Option MqttConnection) (now : Nat)
  | wait (now : Nat)
  | pollFailed (now : Nat)
  | stop (returns : List Int) (now : Nat)
  | finish
  | start

/-- An action whose turn it is not has no effect. -/
def MqttClient.step (c : MqttClient) : ClientAction → Option MqttClient
  | .publish a returns now => c.publish a returns now
  | .enqueue a store => some (c.enqueue a store)
  | .subscribe random topic qos memory returns now =>
    some (c.subscribe random topic qos memory returns now)
  | .unsubscribe random topic memory returns now =>
    some (c.unsubscribe random topic memory returns now)
  | .round r => some (if c.running ∧ c.state = .connected then c.connectedRound r else c)
  | .connect accepted now =>
    some (if c.running ∧ c.state = .init then c.initRound accepted now else c)
  | .wait now => some (if c.running ∧ c.state = .waitReconnect then c.waitRound now else c)
  | .pollFailed now =>
    some (if c.running ∧ c.state = .connected then c.abortConnection now else c)
  | .stop returns now => some (c.stop returns now)
  | .finish => some (if c.running then c else c.finish)
  | .start => some (if c.running then c else c.start)

def MqttClient.initial (bufferLength now : Nat) : MqttClient where
  connection := ⟨⟨[], 0, 0⟩, bufferLength⟩
  state := .init
  running := false
  transportOpen := false
  store := ⟨[], 0, 0, [], [], [], [], []⟩
  pendingPublishQos := 0
  waitForPingResp := false
  keepaliveTick := now
  lastRetransmit := 0
  reconnectTick := now
  events := []

end FcomGateway.Mqtt
