import FcomGateway.JobDelivery
import FcomGateway.MqttReceive

/-! # Delivering what was received

`deliver_publish` dispatches what the buffer has of a payload and reads the rest of it, event by
event. Over a whole connection every message is delivered once and in order, however the stream is
cut, except for the messages whose end looks like the bytes of a remaining length.
-/

namespace FcomGateway.Mqtt

open Varint

/-! ## Published messages -/

/-- The reads of `deliver_publish` behind the first part of the payload, up to one that fails. -/
def readParts (inBufferLength remaining : Nat) (t : Transport) :
    Bool × List (List UInt8) × Transport :=
  if _h : remaining = 0 then (true, [], t)
  else
    match t.read (min inBufferLength remaining) with
    | (none, t) => (false, [], t)
    | (some part, t) =>
      if _hPart : part = [] then (false, [], t)
      else
        let (ok, parts, t) := readParts inBufferLength (remaining - part.length) t
        (ok, part :: parts, t)
termination_by remaining
decreasing_by
  have hPos := List.length_pos_iff.mpr _hPart
  omega

/-- The data events of a message; the topic is given with the first one. -/
structure Delivery where
  ok : Bool
  topic : List UInt8
  retain : Nat
  msgId : Nat
  qos : Nat
  dup : Nat
  events : List MqttData
  transport : Transport

def deliverPublish (inBufferLength messageLength : Nat) (inBuffer : List UInt8)
    (t : Transport) : Delivery :=
  let msgReadLen := inBuffer.length
  match mqttGetPublishTopic inBuffer msgReadLen with
  | none => ⟨false, [], 0, 0, 0, 0, [], t⟩
  | some msgTopic =>
    let msgData := (mqttGetPublishData inBuffer msgReadLen).getD []
    let totalDataLen := msgData.length + messageLength - msgReadLen
    let (ok, parts, t) := readParts inBufferLength (messageLength - msgReadLen) t
    ⟨ok, msgTopic, getRetain inBuffer, mqttGetId inBuffer msgData.length, getQos inBuffer,
      getDup inBuffer, dataEvents totalDataLen 0 (msgData :: parts), t⟩

structure Arrival where
  bytes : List UInt8
  messageLength : Nat
  deriving DecidableEq

/-- What `mqtt_process_receive` reads before it handles a message. -/
def readArrival (inBufferLength : Nat) (inBuffer : List UInt8) (t : Transport) :
    Framing.Call UInt8 Arrival Transport :=
  match mqttMessageReceive inBufferLength inBuffer t with
  | (.failed, _, inBuffer, t) => ⟨.failed, inBuffer, t⟩
  | (.nothing, _, inBuffer, t) => ⟨.nothing, inBuffer, t⟩
  | (.message, messageLength, inBuffer, t) =>
    if getType inBuffer = some .publish then
      let delivery := deliverPublish inBufferLength messageLength inBuffer t
      if delivery.ok then
        let later := (delivery.events.tail.map MqttData.data).flatten
        ⟨.message ⟨inBuffer ++ later, messageLength⟩, inBuffer, delivery.transport⟩
      else ⟨.failed, inBuffer, delivery.transport⟩
    else ⟨.message ⟨inBuffer, messageLength⟩, inBuffer, t⟩

/-! ## Two kinds of transport -/

/-- Every read has something, and there are as many as bytes. -/
def Plenty (t : Transport) : Prop :=
  (∀ read ∈ t.reads, ∃ k, read = some (k + 1)) ∧ t.stream.length ≤ t.reads.length

theorem Plenty.feeds (t : Transport) (n : Nat) (h : Plenty t) (hMore : 0 < t.stream.length)
    (hn : 0 < n) :
    ∃ bytes, (t.read n).1 = some bytes ∧ bytes ≠ [] ∧ Plenty (t.read n).2 := by
  obtain ⟨hPositive, hEnough⟩ := h
  rw [Transport.read]
  cases hReads : t.reads with
  | nil =>
    rw [hReads, List.length_nil] at hEnough
    omega
  | cons read reads =>
    obtain ⟨k, rfl⟩ := hPositive read (by rw [hReads]; exact List.mem_cons_self)
    refine ⟨_, rfl, ?_, fun read hRead => hPositive read ?_, ?_⟩
    · rw [Ne, List.take_eq_nil_iff, ← List.length_eq_zero_iff]
      omega
    · rw [hReads]
      exact List.mem_cons_of_mem _ hRead
    · rw [hReads, List.length_cons] at hEnough
      dsimp only
      rw [List.length_drop]
      omega

def plenty : Supply := ⟨Plenty, 0, Plenty.feeds⟩

def Single (reads : List (Option Nat)) (least : Nat) (t : Transport) : Prop :=
  ∃ k, t.reads = List.replicate k (some 1) ++ reads ∧ t.stream.length = k + least

theorem Single.feeds (reads : List (Option Nat)) (least : Nat) (t : Transport) (n : Nat)
    (h : Single reads least t) (hMore : least < t.stream.length) (hn : 0 < n) :
    ∃ bytes, (t.read n).1 = some bytes ∧ bytes ≠ [] ∧ Single reads least (t.read n).2 := by
  obtain ⟨k, hReads, hLength⟩ := h
  obtain ⟨k, rfl⟩ : ∃ j, k = j + 1 := ⟨k - 1, by omega⟩
  rw [List.replicate_succ, List.cons_append] at hReads
  rw [Transport.read, hReads]
  refine ⟨_, rfl, ?_, k, rfl, ?_⟩
  · rw [Ne, List.take_eq_nil_iff, ← List.length_eq_zero_iff]
    omega
  · dsimp only
    rw [List.length_drop]
    omega

def single (reads : List (Option Nat)) (least : Nat) : Supply :=
  ⟨Single reads least, least, Single.feeds reads least⟩

/-! ## The payload behind the buffer -/

/-- The parts put together are the rest of the message. -/
theorem readParts_spec (S : Supply) {inBufferLength : Nat} (hBuffer : 0 < inBufferLength)
    {remaining : Nat} {t : Transport} {later rest : List UInt8}
    (hStream : t.stream = later ++ rest) (hLength : later.length = remaining)
    (hLeast : S.least ≤ rest.length) :
    let read := readParts inBufferLength remaining t
    read.2.1.flatten <+: later ∧
      (read.1 = true → read.2.1.flatten = later ∧ read.2.2.stream = rest) ∧
      (S.Good t → read.1 = true ∧ S.Good read.2.2) := by
  fun_induction readParts inBufferLength remaining t generalizing later with
  | case1 t =>
    have hNone : later = [] := List.eq_nil_of_length_eq_zero hLength
    rw [hNone] at hStream ⊢
    exact ⟨List.prefix_refl _, fun _ => ⟨rfl, hStream⟩, fun hGood => ⟨rfl, hGood⟩⟩
  | case2 remaining t hMore t' hRead =>
    refine ⟨List.nil_prefix, nofun, fun hGood => ?_⟩
    have hLonger : S.least < t.stream.length := by
      rw [hStream, List.length_append]
      omega
    obtain ⟨_, hNow, _, _⟩ := S.feeds t (min inBufferLength remaining) hGood hLonger (by omega)
    rw [hRead] at hNow
    cases hNow
  | case3 remaining t hMore t' hRead =>
    refine ⟨List.nil_prefix, nofun, fun hGood => ?_⟩
    have hLonger : S.least < t.stream.length := by
      rw [hStream, List.length_append]
      omega
    obtain ⟨_, hNow, hBytes, _⟩ :=
      S.feeds t (min inBufferLength remaining) hGood hLonger (by omega)
    rw [hRead] at hNow
    cases hNow
    exact absurd rfl hBytes
  | case4 remaining t hMore part t' hRead hPart ok parts t'' hLater =>
    rename_i ih
    obtain ⟨hSplit, hShort⟩ := read_stream t (min inBufferLength remaining)
    rw [hRead] at hSplit hShort
    dsimp only [Option.getD_some] at hSplit hShort
    have hPrefix : part <+: later := by
      have hWhole : part <+: later ++ rest := ⟨t'.stream, by rw [← hSplit, hStream]⟩
      exact List.prefix_of_prefix_length_le hWhole (List.prefix_append _ _) (by omega)
    obtain ⟨later, rfl⟩ := hPrefix
    rw [List.append_assoc, hSplit] at hStream
    have hNext := List.append_cancel_left hStream
    rw [List.length_append] at hLength
    obtain ⟨hFlat, hDone, hServed⟩ := ih hNext (by omega)
    rw [hLater] at hFlat hDone hServed
    refine ⟨?_, fun hOk => ?_, fun hGood => ?_⟩
    · rw [List.flatten_cons]
      exact (List.prefix_append_right_inj part).mpr hFlat
    · obtain ⟨hEq, hRest⟩ := hDone hOk
      exact ⟨by rw [List.flatten_cons, hEq], hRest⟩
    · have hLonger : S.least < t.stream.length := by
        rw [hSplit, hNext, List.length_append, List.length_append]
        have hPos := List.length_pos_iff.mpr hPart
        omega
      obtain ⟨_, _, _, hStill⟩ :=
        S.feeds t (min inBufferLength remaining) hGood hLonger (by omega)
      rw [hRead] at hStill
      exact hServed hStill

namespace Publish

variable {p : Publish} {dup : Nat} {rest : List UInt8} {cap : Nat} {inBuffer : List UInt8}
  {t : Transport}

/-- `mqtt_get_id` is told the length of the payload instead of that of the message. -/
theorem getId_short (hDup : dup < 2) (h : Shows inBuffer cap (p.bytes dup))
    (hEnd : cap ≤ (p.bytes dup).length) {n : Nat} (hn : n ≤ cap) :
    mqttGetId inBuffer n = if p.dataStart ≤ n then p.id else 0 := by
  have hTopic := p.topic_pos
  have hVariable := p.header_length
  have hStartEq : p.dataStart = headerLength p.body + p.header.length := rfl
  have hShows : Shows inBuffer n (p.bytes dup) := by
    have hTake := congrArg (List.take n) h
    rwa [List.take_take, List.take_take, min_eq_left hn] at hTake
  split
  · exact (p.readAs hDup hShows ‹_› (hn.trans hEnd)).id
  · rename_i hShort
    by_cases hNone : n < 1
    · rw [mqttGetId, if_pos hNone]
    obtain ⟨hType, -, hQos, -⟩ := p.flags_shown hDup hShows (by omega)
    rw [mqttGetId, if_neg hNone, hType]
    dsimp only
    rcases Nat.lt_or_ge n (headerLength p.body) with hCut | hHeader
    · rw [p.header_cut hShows (by omega) hCut, if_pos (by omega)]
    · have hFrame := p.header_shown hShows hHeader
      rw [hFrame]
      dsimp only
      split
      · rfl
      · rw [hShows.twoBytes (by omega), twoBytes_topic, hQos]
        split
        · rfl
        · split
          · rw [if_pos ‹_›] at hVariable
            rw [if_pos (by omega)]
          · rfl

/-- What the data events of a message say; the events of a connection that breaks have a part of
the payload. -/
structure DeliveredAs (p : Publish) (dup : Nat) (inBuffer rest : List UInt8) (d : Delivery) :
    Prop where
  topic : d.topic = p.topic
  retain : d.retain = p.retain
  qos : d.qos = p.qos
  duplicate : d.dup = dup
  id : d.msgId = if p.dataStart ≤ inBuffer.length - p.dataStart then p.id else 0
  events : ∃ parts, d.events = dataEvents p.data.length 0 parts ∧ parts.flatten <+: p.data ∧
    (d.ok = true → parts.flatten = p.data)
  done : d.ok = true → d.transport.stream = rest ∧
    inBuffer ++ (d.events.tail.map MqttData.data).flatten = p.bytes dup

theorem map_dataEvents (total offset : Nat) (parts : List (List UInt8)) :
    (dataEvents total offset parts).map MqttData.data = parts := by
  induction parts generalizing offset with
  | nil => rfl
  | cons part parts ih => rw [dataEvents, List.map_cons, ih]

theorem deliverPublish_spec (S : Supply) (hDup : dup < 2) {inBufferLength : Nat}
    (hBuffer : 0 < inBufferLength) (hLeast : S.least ≤ rest.length)
    (h : Framing.Partial Transport.stream (p.bytes dup) rest cap inBuffer t)
    (hStart : p.dataStart ≤ cap) (hEnd : cap ≤ (p.bytes dup).length) :
    p.DeliveredAs dup inBuffer rest
        (deliverPublish inBufferLength (p.bytes dup).length inBuffer t) ∧
      (S.Good t → (deliverPublish inBufferLength (p.bytes dup).length inBuffer t).ok = true ∧
        S.Good (deliverPublish inBufferLength (p.bytes dup).length inBuffer t).transport) := by
  have hLength : inBuffer.length = cap := Shown.length h hEnd
  have hShows : Shows inBuffer cap (p.bytes dup) := by
    rw [Shows, h.buffer, List.take_take, min_self]
  have hTotal := p.bytes_length dup
  have hRead := p.readAs hDup hShows hStart hEnd
  have hLater : ((p.bytes dup).drop cap).length = (p.bytes dup).length - inBuffer.length := by
    rw [List.length_drop, hLength]
  have hDrop : p.data.drop (cap - p.dataStart) = (p.bytes dup).drop cap := by
    rw [← p.data_bytes dup, List.drop_drop, Nat.add_sub_cancel' hStart]
  have hShownLength : (p.data.take (cap - p.dataStart)).length = cap - p.dataStart := by
    rw [List.length_take]
    omega
  have hAll : (p.data.take (cap - p.dataStart)).length + (p.bytes dup).length - cap =
      p.data.length := by
    omega
  obtain ⟨hFlat, hDone, hServed⟩ := readParts_spec S hBuffer h.stream hLater hLeast
  rw [hLength] at hFlat hDone hServed
  rw [deliverPublish, hLength, hRead.topic]
  dsimp only
  rw [hRead.data, hAll]
  refine ⟨⟨rfl, hRead.retain, hRead.qos, hRead.duplicate, ?_, ?_, fun hOk => ?_⟩, hServed⟩
  · dsimp only
    rw [getId_short hDup hShows hEnd (by omega), hShownLength, hLength]
  · refine ⟨_, rfl, ?_, fun hOk => ?_⟩
    · have hWhole := List.take_append_drop (cap - p.dataStart) p.data
      have hLonger := (List.prefix_append_right_inj
        (p.data.take (cap - p.dataStart))).mpr hFlat
      rwa [← hDrop, hWhole] at hLonger
    · rw [List.flatten_cons, (hDone hOk).1, ← hDrop, List.take_append_drop]
  · refine ⟨(hDone hOk).2, ?_⟩
    dsimp only
    rw [dataEvents, List.tail_cons, map_dataEvents, (hDone hOk).1, h.buffer,
      List.take_append_drop]

theorem getPublishTopic_short (h : Shows inBuffer cap (p.bytes dup))
    (hShort : cap < headerLength p.body + 2 + p.topic.length) :
    mqttGetPublishTopic inBuffer cap = none := by
  rw [mqttGetPublishTopic]
  rcases Nat.lt_or_ge cap (headerLength p.body) with hCut | hHeader
  · rcases Nat.eq_zero_or_pos cap with rfl | hPos
    · exact if_pos (Nat.zero_le _)
    · rw [p.header_cut h hPos hCut]
      exact if_pos (Nat.le_add_right _ _)
  · rw [p.header_shown h hHeader]
    dsimp only
    split
    · rfl
    · rw [h.twoBytes (by omega), twoBytes_topic, if_pos hShort]

/-- An identifier that is cut is passed over as a part of the payload. -/
theorem getPublishData_short (hDup : dup < 2) (h : Shows inBuffer cap (p.bytes dup))
    (hTopic : headerLength p.body + 2 + p.topic.length ≤ cap) (hShort : cap < p.dataStart) :
    mqttGetPublishData inBuffer cap = none := by
  have hPos := p.topic_pos
  have hVariable := p.header_length
  have hStartEq : p.dataStart = headerLength p.body + p.header.length := rfl
  have hSome : p.qos > 0 := by
    by_contra hNone
    rw [if_neg hNone] at hVariable
    omega
  rw [if_pos hSome] at hVariable
  have hFrame := p.header_shown h (by omega)
  obtain ⟨-, -, hQos, -⟩ := p.flags_shown hDup h (by omega)
  rw [mqttGetPublishData, mqttGetTotalLength, hFrame]
  dsimp only
  rw [if_neg (by omega), h.twoBytes (by omega), twoBytes_topic]
  split
  · rfl
  · rw [if_pos ⟨by rw [hQos]; exact hSome, by omega⟩]

/-- Without the whole header the events have no topic, or more bytes than the payload. -/
theorem not_deliveredAs (hDup : dup < 2) {inBufferLength : Nat}
    (h : Framing.Partial Transport.stream (p.bytes dup) rest cap inBuffer t)
    (hEnd : cap ≤ (p.bytes dup).length) (hShort : cap < p.dataStart) :
    ¬ p.DeliveredAs dup inBuffer rest
      (deliverPublish inBufferLength (p.bytes dup).length inBuffer t) := by
  have hLength : inBuffer.length = cap := Shown.length h hEnd
  have hShows : Shows inBuffer cap (p.bytes dup) := by
    rw [Shows, h.buffer, List.take_take, min_self]
  have hTotal := p.bytes_length dup
  intro hAs
  rcases Nat.lt_or_ge cap (headerLength p.body + 2 + p.topic.length) with hCut | hTopic
  · have hNone : (deliverPublish inBufferLength (p.bytes dup).length inBuffer t).topic = [] := by
      rw [deliverPublish, hLength, getPublishTopic_short hShows hCut]
    exact p.named (hAs.topic.symm.trans hNone)
  · have hRead := getPublishData_short hDup hShows hTopic hShort
    obtain ⟨parts, hEvents, -, -⟩ := hAs.events
    rw [deliverPublish, hLength, hRead] at hEvents
    cases hName : mqttGetPublishTopic inBuffer cap with
    | none =>
      have hNone : (deliverPublish inBufferLength (p.bytes dup).length inBuffer t).topic = [] := by
        rw [deliverPublish, hLength, hName]
      exact p.named (hAs.topic.symm.trans hNone)
    | some name =>
      rw [hName] at hEvents
      dsimp only [Option.getD_none, List.length_nil, dataEvents] at hEvents
      cases parts with
      | nil => cases hEvents
      | cons part parts =>
        have hFirst := congrArg MqttData.totalDataLen (List.cons_eq_cons.mp hEvents).1
        dsimp only at hFirst
        omega

/-- However the rest of a message is read: the events have its topic and its payload in order if and
only if the buffer has all of its header. Their identifier is right then if and only if the part of
the payload in the buffer is as long as the header. -/
theorem publish_delivered (p : Publish) (hDup : dup < 2) {inBufferLength : Nat}
    (hBuffer : 0 < inBufferLength)
    (h : Framing.Partial Transport.stream (p.bytes dup) rest cap inBuffer t)
    (hEnd : cap ≤ (p.bytes dup).length) :
    let d := deliverPublish inBufferLength (p.bytes dup).length inBuffer t
    (p.DeliveredAs dup inBuffer rest d ↔ p.dataStart ≤ cap) ∧
      (p.dataStart ≤ cap →
        (d.ok = true → ∃ parts, d.events = FcomGateway.deliverPublish parts ∧
          parts.flatten = p.data) ∧
        (p.id ≠ 0 → (d.msgId = p.id ↔ p.dataStart ≤ cap - p.dataStart))) := by
  refine ⟨⟨fun hAs => ?_, fun hStart => ?_⟩, fun hStart => ?_⟩
  · by_contra hShort
    exact not_deliveredAs hDup h hEnd (Nat.not_le.mp hShort) hAs
  · exact (deliverPublish_spec plenty hDup hBuffer (Nat.zero_le _) h hStart hEnd).1
  obtain ⟨hAs, -⟩ := deliverPublish_spec plenty hDup hBuffer (Nat.zero_le _) h hStart hEnd
  refine ⟨fun hOk => ?_, fun hId => ?_⟩
  · obtain ⟨parts, hEvents, -, hWhole⟩ := hAs.events
    refine ⟨parts, ?_, hWhole hOk⟩
    rw [hEvents, FcomGateway.deliverPublish, hWhole hOk]
  · rw [hAs.id, Shown.length h hEnd]
    split
    · exact iff_of_true rfl ‹_›
    · exact iff_of_false (Ne.symm hId) ‹_›

/-- A buffer of 10 bytes has three of the payload, and the others come in three reads. -/
theorem sample_publish_delivered : samplePublished.DeliveredAs 0
    ((samplePublished.bytes 0).take 10) [0xD0, 0x00]
    (Mqtt.deliverPublish 10 (samplePublished.bytes 0).length ((samplePublished.bytes 0).take 10)
      ⟨(samplePublished.bytes 0).drop 10 ++ [0xD0, 0x00], [some 4, some 2, some 3]⟩) :=
  ((publish_delivered samplePublished (by decide) (by decide) ⟨rfl, rfl⟩
    (by decide +kernel)).1).mpr (by decide +kernel)

end Publish

/-! ## Sessions -/

namespace Incoming

/-- What the client takes: a message that fits into the buffer, and of a `PUBLISH` its topic. -/
inductive Accepted (inBufferLength : Nat) (m : Incoming) : Prop
  | control (hType : getType m.bytes ≠ some .publish) (hFits : m.bytes.length ≤ inBufferLength)
  | publish (p : Publish) (dup : Nat) (hDup : dup < 2)
      (hFirst : m.first = typeByte .publish dup p.qos p.retain) (hBody : m.body = p.body)
      (hStart : p.dataStart ≤ inBufferLength)
      (hRoom : m.bytes.length ≤ inBufferLength ∨ 9 ≤ inBufferLength)

def arrival (m : Incoming) : Arrival := ⟨m.bytes, m.bytes.length⟩

variable {m : Incoming} {rest : List UInt8} {S : Supply} {o : Origin} {r : Nat}
  {inBuffer : List UInt8} {t : Transport} {inBufferLength : Nat}

theorem bytes_publish {p : Publish} {dup : Nat}
    (hFirst : m.first = typeByte .publish dup p.qos p.retain) (hBody : m.body = p.body) :
    m.bytes = p.bytes dup ∧ m.headerLength = Mqtt.headerLength p.body := by
  rw [bytes, headerLength, hFirst, hBody, Publish.bytes]
  exact ⟨rfl, rfl⟩

def held (inBufferLength : Nat) (m : Incoming) : Nat := min m.bytes.length inBufferLength

theorem Accepted.returns (hAccepted : m.Accepted inBufferLength) (hRead : ¬ m.Misread)
    (h : Reached S m.bytes rest o r inBuffer t) (hr : r < m.held inBufferLength) :
    m.Returns S rest o (m.held inBufferLength) (mqttMessageReceive inBufferLength inBuffer t) := by
  rw [held] at hr ⊢
  rcases Nat.lt_or_ge inBufferLength m.bytes.length with hLong | hFits
  · rw [min_eq_right hLong.le] at hr ⊢
    cases hAccepted with
    | control hType hFits => omega
    | publish p dup hDup hFirst hBody hStart hRoom =>
      have hBuffer : 9 ≤ inBufferLength := hRoom.resolve_left (by omega)
      obtain ⟨hBytes, hHeader⟩ := bytes_publish hFirst hBody
      have hLens := m.headerLength_bounds.2
      refine returns_of_within hRead ⟨hLong.le, Or.inr hBuffer⟩
        (fun r' buf t' hLow hHigh hReached => ?_) h hr
      rw [hHeader] at hLow hLens ⊢
      rw [hBytes] at hLong hReached ⊢
      exact Publish.readBody_within hDup hBuffer hStart hLong hLens hReached hLow hHigh
  · rw [min_eq_left hFits] at hr ⊢
    exact returns_whole hRead hFits h hr

end Incoming

def Arrival.held (inBufferLength : Nat) (a : Arrival) : Nat := min a.bytes.length inBufferLength

/-- The client behind some calls, on a connection that carries these messages; `handle` is what it
does with each of them. -/
def connection {σ : Type} (inBufferLength : Nat) (handle : σ → Arrival → Bool × σ) (state : σ)
    (reads : List (Option Nat)) (messages : List Incoming) (calls : Nat) :
    Framing.Session UInt8 Arrival Transport σ :=
  Framing.Session.run (readArrival inBufferLength) handle
    ⟨[], [], ⟨(messages.map Incoming.bytes).flatten, reads⟩, state, false⟩ calls

section Connection

variable {inBufferLength : Nat} {m : Incoming} {messages : List Incoming} {σ : Type}
  {handle : σ → Arrival → Bool × σ} {state : σ}

theorem Incoming.Accepted.room (h : m.Accepted inBufferLength) :
    Framing.Holds Arrival.bytes (Arrival.held inBufferLength) m.arrival := by
  have hBounds := m.headerLength_bounds
  have hLength := m.bytes_length
  have hPos : 0 < inBufferLength := by
    cases h with
    | control hType hFits => omega
    | publish p dup hDup hFirst hBody hStart hRoom =>
      have hTopic := p.topic_pos
      have hVariable := p.header_length
      rw [Publish.dataStart] at hStart
      omega
  refine ⟨?_, min_le_left _ _⟩
  rw [Arrival.held, Incoming.arrival]
  dsimp only
  omega

theorem rests (inBufferLength : Nat) :
    Framing.Rests Transport.stream (readArrival inBufferLength) := by
  intro t hEnd
  have hFirst : (readInto 1 [] t).inBuffer = [] ∧ (readInto 1 [] t).transport.stream = [] ∧
      ((readInto 1 [] t).stop = some .failed ∨ (readInto 1 [] t).stop = some .nothing) := by
    rw [readInto, Transport.read]
    split
    · rename_i hRead
      split at hRead
      · cases hRead
      · cases hRead
        exact ⟨rfl, hEnd, Or.inl rfl⟩
      · cases hRead
    · rename_i hRead
      split at hRead
      · cases hRead
        exact ⟨rfl, hEnd, Or.inr rfl⟩
      · cases hRead
      · cases hRead
        rw [hEnd, List.take_nil, if_pos rfl, List.drop_nil]
        exact ⟨rfl, rfl, Or.inr rfl⟩
  obtain ⟨hBuffer, hStream, hStop⟩ := hFirst
  rw [readArrival, mqttMessageReceive, firstByte, if_pos rfl]
  rcases hStop with hStop | hStop
  · simp only [Progress.andThen, hStop]
  · simp only [Progress.andThen, hStop, hBuffer, hStream]
    exact ⟨trivial, trivial⟩

end Connection

end FcomGateway.Mqtt
