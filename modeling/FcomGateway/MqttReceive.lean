import FcomGateway.Library.Framing
import FcomGateway.MqttRoundTrip

/-! # Receiving messages

`mqtt_message_receive` does not wait: what a read does not give is asked for in a later call, which
finds from the bytes in the buffer how far the message is. A message that is longer than the buffer
is taken if it is a `PUBLISH`, up to the end of the buffer.
-/

namespace FcomGateway.Mqtt

open Varint

/-- What is still to come, and how much of it each read has; `none` is an error, and behind the
list there is no data. -/
structure Transport where
  stream : List UInt8
  reads : List (Option Nat)

/-- `esp_transport_read`; `none` is an error, and no bytes are a timeout. -/
def Transport.read (t : Transport) (len : Nat) : Option (List UInt8) × Transport :=
  match t.reads with
  | [] => (some [], t)
  | none :: reads => (none, { t with reads := reads })
  | some limit :: reads =>
    (some (t.stream.take (min limit len)), ⟨t.stream.drop (min limit len), reads⟩)

inductive Received
  | failed
  | nothing
  | message
  deriving DecidableEq, Repr

/-- How far a call has come, and with what it has returned. -/
structure Progress where
  stop : Option Received
  inBuffer : List UInt8
  transport : Transport

def Progress.go (inBuffer : List UInt8) (t : Transport) : Progress := ⟨none, inBuffer, t⟩

def Progress.andThen (p : Progress) (next : List UInt8 → Transport → Progress) : Progress :=
  match p.stop with
  | none => next p.inBuffer p.transport
  | some _ => p

def readInto (len : Nat) (inBuffer : List UInt8) (t : Transport) : Progress :=
  match t.read len with
  | (none, t) => ⟨some .failed, inBuffer, t⟩
  | (some bytes, t) =>
    if bytes = [] then ⟨some .nothing, inBuffer, t⟩ else .go (inBuffer ++ bytes) t

/-- A part of the message of `target` bytes altogether. -/
def readUpTo (target len : Nat) (inBuffer : List UInt8) (t : Transport) : Progress :=
  (readInto len inBuffer t).andThen fun inBuffer t =>
    if inBuffer.length < target then ⟨some .nothing, inBuffer, t⟩ else .go inBuffer t

def firstByte (inBuffer : List UInt8) (t : Transport) : Progress :=
  if inBuffer = [] then
    (readInto 1 [] t).andThen fun buf t =>
      if mqttHasValidMsgHdr buf 1 then .go buf t else ⟨some .failed, [], t⟩
  else .go inBuffer t

/-- `(in_buffer_read_len < 6) && (*(buf - 1) & 0x80)` -/
def Continued (inBuffer : List UInt8) : Prop :=
  inBuffer.length < 6 ∧ inBuffer.getD (inBuffer.length - 1) 0 &&& 0x80 ≠ 0

instance : DecidablePred Continued := fun _ => inferInstanceAs (Decidable (_ ∧ _))

theorem readInto_length {len : Nat} {inBuffer : List UInt8} {t : Transport}
    (h : (readInto len inBuffer t).stop = none) :
    inBuffer.length < (readInto len inBuffer t).inBuffer.length := by
  rw [readInto] at h ⊢
  split
  · simp_all
  · split
    · simp_all
    · rw [Progress.go, List.length_append]
      exact Nat.lt_add_of_pos_right (List.length_pos_iff.mpr ‹_›)

def readLength (inBuffer : List UInt8) (t : Transport) : Progress :=
  let p := readInto 1 inBuffer t
  if _h : p.stop = none ∧ Continued p.inBuffer then readLength p.inBuffer p.transport else p
termination_by 6 - inBuffer.length
decreasing_by
  have hLonger : inBuffer.length < p.inBuffer.length := readInto_length _h.1
  exact Nat.sub_lt_sub_left (Nat.lt_trans hLonger _h.2.1) hLonger

def remainingLength (inBuffer : List UInt8) (t : Transport) : Progress :=
  if inBuffer.length = 1 ∨ Continued inBuffer then readLength inBuffer t else .go inBuffer t

def readRest (totalLen : Nat) (inBuffer : List UInt8) (t : Transport) : Progress :=
  if inBuffer.length < totalLen then readUpTo totalLen (totalLen - inBuffer.length) inBuffer t
  else .go inBuffer t

/-- The part behind the remaining length, of a message of `totalLen` bytes. -/
def readBody (inBufferLength totalLen fixedHeaderLen : Nat) (inBuffer : List UInt8)
    (t : Transport) : Progress :=
  if inBufferLength < totalLen then
    if getType inBuffer = some .publish then
      let topic := if inBuffer.length < fixedHeaderLen + 2 then
        readUpTo (fixedHeaderLen + 2) (inBuffer.length - fixedHeaderLen + 2) inBuffer t
        else .go inBuffer t
      topic.andThen fun inBuffer t =>
        let topicLen := twoBytes inBuffer fixedHeaderLen
        let totalLen := fixedHeaderLen + topicLen + if getQos inBuffer > 0 then 2 else 0
        if inBufferLength < totalLen then ⟨some .failed, inBuffer, t⟩
        else readRest inBufferLength inBuffer t
    else ⟨some .failed, inBuffer, t⟩
  else readRest totalLen inBuffer t

/-- The result, `message_length` with it, and the buffer with the bytes that were read. -/
def mqttMessageReceive (inBufferLength : Nat) (inBuffer : List UInt8) (t : Transport) :
    Received × Nat × List UInt8 × Transport :=
  let header := (firstByte inBuffer t).andThen remainingLength
  match header.stop with
  | some result => (result, 0, header.inBuffer, header.transport)
  | none =>
    let (totalLen, fixedHeaderLen) := mqttGetTotalLength header.inBuffer header.inBuffer.length
    let p := readBody inBufferLength totalLen fixedHeaderLen header.inBuffer header.transport
    (p.stop.getD .message, totalLen, p.inBuffer, p.transport)

/-! ## Messages that come in -/

structure Incoming where
  first : UInt8
  body : List UInt8
  valid : mqttHasValidMsgHdr [first] 1 = true
  size : body.length < 128 ^ 4

namespace Incoming

def bytes (m : Incoming) : List UInt8 := frame m.first m.body

def headerLength (m : Incoming) : Nat := Mqtt.headerLength m.body

/-- The last two bytes of the body look like bytes of a remaining length that goes on. -/
def Misread (m : Incoming) : Prop :=
  (m.body.length = 2 ∨ m.body.length = 3) ∧ ∀ b ∈ m.body.drop (m.body.length - 2), ¬ b < 128

instance : DecidablePred Misread := fun _ => inferInstanceAs (Decidable (_ ∧ _))

theorem bytes_length (m : Incoming) : m.bytes.length = m.headerLength + m.body.length :=
  frame_length _ _

theorem headerLength_bounds (m : Incoming) : 2 ≤ m.headerLength ∧ m.headerLength ≤ 5 := by
  have hUpper := encode_length_le (k := 3) m.size
  have hLower := List.length_pos_iff.mpr (encode_ne_nil m.body.length)
  rw [headerLength, Mqtt.headerLength]
  omega

/-- In the header only the last byte of the remaining length is without the bit. -/
theorem bytes_header (m : Incoming) {i : Nat} (hPos : 1 ≤ i) (hi : i < m.headerLength) :
    m.bytes.getD i 0 < 128 ↔ i + 1 = m.headerLength := by
  obtain ⟨j, rfl⟩ : ∃ j, i = j + 1 := ⟨i - 1, by omega⟩
  rw [headerLength, Mqtt.headerLength] at hi ⊢
  have hj : j < (encode m.body.length).length := by omega
  rw [bytes, frame, List.getD_cons_succ, List.getD_append _ _ _ _ hj,
    (encode_complete _).getD_lt hj]
  omega

theorem bytes_body (m : Incoming) (j : Nat) :
    m.bytes.getD (m.headerLength + j) 0 = m.body.getD j 0 := by
  have hDrop := drop_frame m.first m.body j
  rw [List.getD_eq_getElem?_getD, List.getD_eq_getElem?_getD, ← Nat.add_zero (m.headerLength + j),
    ← List.getElem?_drop, bytes, headerLength, hDrop, List.getElem?_drop, Nat.add_zero]

end Incoming

/-! ## One read -/

theorem Shown.length {m rest : List UInt8} {r : Nat} {inBuffer : List UInt8} {t : Transport}
    (h : Framing.Partial Transport.stream m rest r inBuffer t) (hr : r ≤ m.length) :
    inBuffer.length = r := by
  rw [h.buffer, List.length_take, min_eq_left hr]

/-- A kind of transport on which every read has something, as long as more than `least` bytes are
to come. -/
structure Supply where
  Good : Transport → Prop
  least : Nat
  feeds : ∀ t n, Good t → least < t.stream.length → 0 < n →
    ∃ bytes, (t.read n).1 = some bytes ∧ bytes ≠ [] ∧ Good (t.read n).2

/-- What a call begins with: the bytes in the buffer, and whether its transport is a good one. -/
structure Origin where
  start : Nat
  fed : Prop

/-- The first `r` bytes of the message are in the buffer. -/
structure Reached (S : Supply) (m rest : List UInt8) (o : Origin) (r : Nat)
    (inBuffer : List UInt8) (t : Transport) : Prop where
  shown : Framing.Partial Transport.stream m rest r inBuffer t
  least : S.least ≤ rest.length
  fed : o.fed → S.Good t
  le : o.start ≤ r

/-- A call goes on from some place between two bounds, or it stops before a third one. With a good
transport it does not fail, and it gets on. -/
def Progress.Within (S : Supply) (m rest : List UInt8) (o : Origin) (p : Progress)
    (limit low high : Nat) : Prop :=
  ∃ r, Reached S m rest o r p.inBuffer p.transport ∧
    match p.stop with
    | none => low ≤ r ∧ r ≤ high
    | some .message => False
    | some .nothing => r < limit ∧ (o.fed → o.start < r)
    | some .failed => r < limit ∧ ¬ o.fed

section Reads

variable {S : Supply} {m rest : List UInt8} {o : Origin} {r : Nat} {inBuffer : List UInt8}
  {t : Transport}

theorem Reached.start (hLeast : S.least ≤ rest.length)
    (h : Framing.Partial Transport.stream m rest r inBuffer t) :
    Reached S m rest ⟨r, S.Good t⟩ r inBuffer t :=
  ⟨h, hLeast, id, le_rfl⟩

theorem Reached.length (h : Reached S m rest o r inBuffer t) (hr : r ≤ m.length) :
    inBuffer.length = r :=
  Shown.length h.shown hr

theorem Reached.shows (h : Reached S m rest o r inBuffer t) : Shows inBuffer r m := by
  rw [Shows, h.shown.buffer, List.take_take, min_self]

theorem Progress.Within.mono {p : Progress} {limit low high limit' high' : Nat}
    (h : p.Within S m rest o limit low high) (hLimit : limit ≤ limit') (hHigh : high ≤ high') :
    p.Within S m rest o limit' low high' := by
  obtain ⟨r, hReached, hStop⟩ := h
  refine ⟨r, hReached, ?_⟩
  cases hResult : p.stop with
  | none =>
    rw [hResult] at hStop
    exact ⟨hStop.1, hStop.2.trans hHigh⟩
  | some result =>
    rw [hResult] at hStop
    cases result with
    | message => exact hStop
    | failed | nothing => exact ⟨hStop.1.trans_le hLimit, hStop.2⟩

theorem Progress.Within.andThen {p : Progress} {next : List UInt8 → Transport → Progress}
    {limit low high limit' low' high' : Nat} (h : p.Within S m rest o limit low high)
    (hLimit : limit ≤ limit')
    (hNext : ∀ r inBuffer t, low ≤ r → r ≤ high → Reached S m rest o r inBuffer t →
      (next inBuffer t).Within S m rest o limit' low' high') :
    (p.andThen next).Within S m rest o limit' low' high' := by
  cases hResult : p.stop with
  | none =>
    obtain ⟨r, hReached, hStop⟩ := h
    rw [hResult] at hStop
    simp only [Progress.andThen, hResult]
    exact hNext r _ _ hStop.1 hStop.2 hReached
  | some result =>
    obtain ⟨r, hReached, hStop⟩ := h.mono hLimit le_rfl
    simp only [Progress.andThen, hResult]
    refine ⟨r, hReached, ?_⟩
    rw [hResult] at hStop ⊢
    cases result with
    | message | failed | nothing => exact hStop

theorem go_within (h : Reached S m rest o r inBuffer t) {limit low high : Nat} (hLow : low ≤ r)
    (hHigh : r ≤ high) : (Progress.go inBuffer t).Within S m rest o limit low high :=
  ⟨r, h, hLow, hHigh⟩

/-- What was read comes before what is left; a failing read leaves the stream as it is. -/
theorem read_stream (t : Transport) (n : Nat) :
    t.stream = (t.read n).1.getD [] ++ (t.read n).2.stream ∧
      ((t.read n).1.getD []).length ≤ n := by
  rw [Transport.read]
  split
  · exact ⟨rfl, Nat.zero_le _⟩
  · exact ⟨rfl, Nat.zero_le _⟩
  · exact ⟨(List.take_append_drop _ _).symm,
      (List.length_take_le _ _).trans (min_le_right _ _)⟩

theorem readInto_within (h : Reached S m rest o r inBuffer t) {len : Nat} (hPos : 0 < len)
    (hRoom : r + len ≤ m.length) :
    (readInto len inBuffer t).Within S m rest o (r + 1) (r + 1) (r + len) := by
  have hLonger : S.least < t.stream.length := by
    have hLeast := h.least
    rw [h.shown.stream, List.length_append, List.length_drop]
    omega
  have hFeeds := fun hO => S.feeds t len (h.fed hO) hLonger hPos
  obtain ⟨hSplit, hShort⟩ := read_stream t len
  rw [readInto]
  generalize t.read len = read at hFeeds hSplit hShort ⊢
  obtain ⟨bytes, t'⟩ := read
  cases bytes with
  | none =>
    refine ⟨r, ⟨⟨h.shown.buffer, ?_⟩, h.least, fun hO => ?_, h.le⟩, Nat.lt_succ_self r,
      fun hO => ?_⟩
    · rw [← h.shown.stream, hSplit]
      rfl
    · obtain ⟨_, hNow, _, _⟩ := hFeeds hO
      cases hNow
    · obtain ⟨_, hNow, _, _⟩ := hFeeds hO
      cases hNow
  | some bytes =>
    rw [Option.getD_some, h.shown.stream] at hSplit
    rw [Option.getD_some] at hShort
    have hSome : o.fed → bytes ≠ [] ∧ S.Good t' := by
      intro hO
      obtain ⟨_, hNow, hBytes, hGood⟩ := hFeeds hO
      cases hNow
      exact ⟨hBytes, hGood⟩
    have hLength : bytes.length ≤ (m.drop r).length := by
      rw [List.length_drop]
      omega
    have hTaken : bytes = (m.drop r).take bytes.length := by
      have hTake := congrArg (List.take bytes.length) hSplit
      rw [List.take_left, List.take_append_of_le_length hLength] at hTake
      exact hTake.symm
    have hLeft : t'.stream = m.drop (r + bytes.length) ++ rest := by
      have hDrop := congrArg (List.drop bytes.length) hSplit
      rw [List.drop_left, List.drop_append_of_le_length hLength, List.drop_drop] at hDrop
      exact hDrop.symm
    dsimp only
    split
    · rename_i hNone
      rw [hNone, List.length_nil, Nat.add_zero] at hLeft
      exact ⟨r, ⟨⟨h.shown.buffer, hLeft⟩, h.least, fun hO => (hSome hO).2, h.le⟩,
        Nat.lt_succ_self r, fun hO => absurd hNone (hSome hO).1⟩
    · rename_i hBytes
      have hMore := List.length_pos_iff.mpr hBytes
      refine go_within (r := r + bytes.length)
        ⟨⟨?_, hLeft⟩, h.least, fun hO => (hSome hO).2, ?_⟩ (by omega) (by omega)
      · rw [h.shown.buffer, List.take_add, ← hTaken]
      · exact h.le.trans (Nat.le_add_right _ _)

theorem readUpTo_within (h : Reached S m rest o r inBuffer t) {target len : Nat}
    (hTarget : r < target) (hPos : 0 < len) (hRoom : r + len ≤ m.length) :
    (readUpTo target len inBuffer t).Within S m rest o target target (r + len) := by
  have hLe := h.le
  refine (readInto_within h hPos hRoom).andThen hTarget fun r' buf t' hLow hHigh hReached => ?_
  rw [hReached.length (hHigh.trans hRoom)]
  split
  · exact ⟨r', hReached, ‹_›, fun _ => by omega⟩
  · exact go_within hReached (Nat.not_lt.mp ‹_›) hHigh

theorem readRest_within (h : Reached S m rest o r inBuffer t) {total : Nat} (hr : r ≤ total)
    (hTotal : total ≤ m.length) :
    (readRest total inBuffer t).Within S m rest o total total total := by
  rw [readRest, h.length (hr.trans hTotal)]
  split
  · have hRead := readUpTo_within h ‹_› (Nat.sub_pos_of_lt ‹_›)
      (show r + (total - r) ≤ m.length by omega)
    rwa [Nat.add_sub_cancel' hr] at hRead
  · exact go_within h (Nat.not_lt.mp ‹_›) hr

end Reads

/-! ## One call -/

namespace Incoming

variable {m : Incoming} {rest : List UInt8} {S : Supply} {o : Origin} {r : Nat}
  {inBuffer : List UInt8} {t : Transport}

theorem headerLength_le (m : Incoming) : m.headerLength ≤ m.bytes.length := by
  rw [bytes_length]
  exact Nat.le_add_right _ _

theorem continued_iff (h : Reached S m.bytes rest o r inBuffer t) (hPos : 1 ≤ r)
    (hr : r ≤ m.bytes.length) :
    Continued inBuffer ↔ r < 6 ∧ ¬ m.bytes.getD (r - 1) 0 < 128 := by
  have hByte : inBuffer.getD (r - 1) 0 = m.bytes.getD (r - 1) 0 := by
    rw [h.shown.buffer, List.getD_eq_getElem?_getD, List.getElem?_take_of_lt (by omega),
      List.getD_eq_getElem?_getD]
  rw [Continued, h.length hr, hByte, ← (byte_mod _).2, Ne]

/-- Two such bytes at the end of a message make it one that is misread. -/
theorem misread_of_end (hHeader : m.headerLength < r) (hEnd : m.bytes.length = r + 1)
    (hShort : r < 5) (hLast : ¬ m.bytes.getD r 0 < 128)
    (hBefore : ¬ m.bytes.getD (r - 1) 0 < 128) : m.Misread := by
  have hLength := m.bytes_length
  have hBounds := m.headerLength_bounds
  have hFirst := m.bytes_body (m.body.length - 2)
  have hSecond := m.bytes_body (m.body.length - 1)
  rw [show m.headerLength + (m.body.length - 2) = r - 1 by omega] at hFirst
  rw [show m.headerLength + (m.body.length - 1) = r by omega] at hSecond
  refine ⟨by omega, fun b hb => ?_⟩
  obtain ⟨j, hj, rfl⟩ := List.getElem_of_mem hb
  rw [List.length_drop] at hj
  rw [List.getElem_drop, ← List.getD_eq_getElem _ 0]
  obtain hZero | hOne : j = 0 ∨ j = 1 := by omega
  · rwa [hZero, Nat.add_zero, ← hFirst]
  · rwa [hOne, show m.body.length - 2 + 1 = m.body.length - 1 by omega, ← hSecond]

theorem firstByte_within (h : Reached S m.bytes rest o r inBuffer t) (hr : r < m.bytes.length) :
    (firstByte inBuffer t).Within S m.bytes rest o 1 (max r 1) (max r 1) := by
  rw [firstByte]
  split
  · rename_i hEmpty
    have hZero : r = 0 := by
      rw [← h.length hr.le, hEmpty, List.length_nil]
    subst hZero
    rw [hEmpty] at h
    refine (readInto_within h one_pos (by omega)).andThen le_rfl
      fun r' buf t' hLow hHigh hReached => ?_
    have hOne : r' = 1 := by omega
    subst hOne
    have hBuf : buf = [m.first] := hReached.shown.buffer
    rw [hBuf, if_pos m.valid, ← hBuf]
    exact go_within hReached le_rfl le_rfl
  · rename_i hSome
    have hPos : 1 ≤ r := by
      rw [← h.length hr.le]
      exact List.length_pos_iff.mpr hSome
    rw [max_eq_left hPos]
    exact go_within h le_rfl le_rfl

/-- The part of a message that is read into the buffer: all of it, or more than a header. -/
structure Part (m : Incoming) (cap : Nat) : Prop where
  le : cap ≤ m.bytes.length
  whole : cap = m.bytes.length ∨ 9 ≤ cap

theorem readLength_within {cap : Nat} (hRead : ¬ m.Misread) (hCap : m.Part cap)
    (h : Reached S m.bytes rest o r inBuffer t) (hPos : 1 ≤ r) (hr : r < cap)
    (hMore : r < m.headerLength ∨ Continued inBuffer) :
    (readLength inBuffer t).Within S m.bytes rest o cap m.headerLength cap := by
  have hHeader := m.headerLength_bounds
  have hHeaderLe := m.headerLength_le
  have hLe := hCap.le
  have hWhole := hCap.whole
  fun_induction readLength inBuffer t generalizing r with
  | case1 inBuffer t p hNext =>
    rename_i ih
    obtain ⟨hGo, hContinued⟩ := hNext
    obtain ⟨r', hReached, hStop⟩ := readInto_within h one_pos (hr.trans_le hLe)
    rw [show (readInto 1 inBuffer t).stop = none from hGo] at hStop
    obtain rfl : r' = r + 1 := by omega
    have hThis := (continued_iff hReached (by omega) (by omega)).mp hContinued
    rw [Nat.add_sub_cancel] at hThis
    -- the loop would leave the message behind a last byte that seems to go on
    have hInside : r + 1 < cap := by
      by_contra hEnd
      rcases Nat.lt_or_ge r m.headerLength with hIn | hBehind
      · have hBit := (m.bytes_header hPos hIn).not.mp hThis.2
        omega
      · have hBefore := (continued_iff h hPos (by omega)).mp (hMore.resolve_left (by omega))
        have hBit : m.headerLength < r := by
          refine lt_of_le_of_ne hBehind fun hEq => hBefore.2 ?_
          exact (m.bytes_header (i := r - 1) (by omega) (by omega)).mpr (by omega)
        exact hRead (misread_of_end hBit (by omega) (by omega) hThis.2 hBefore.2)
    exact ih hReached (by omega) hInside (Or.inr hContinued)
  | case2 inBuffer t p =>
    rename_i hEnd
    obtain ⟨r', hReached, hStop⟩ := readInto_within h one_pos (hr.trans_le hLe)
    refine ⟨r', hReached, ?_⟩
    cases hResult : (readInto 1 inBuffer t).stop with
    | some result =>
      rw [hResult] at hStop
      cases result with
      | message => exact hStop
      | failed | nothing => exact ⟨Nat.lt_of_lt_of_le hStop.1 hr, hStop.2⟩
    | none =>
      rw [hResult] at hStop
      obtain rfl : r' = r + 1 := by omega
      have hLast := (continued_iff hReached (by omega) (by omega)).not.mp
        fun h => hEnd ⟨hResult, h⟩
      rw [Nat.add_sub_cancel] at hLast
      rcases Nat.lt_or_ge r m.headerLength with hIn | hBehind
      · have hBit := (m.bytes_header hPos hIn).mp (by
          by_contra hNot
          exact hLast ⟨by omega, hNot⟩)
        dsimp only
        omega
      · dsimp only
        omega

theorem header_within {cap : Nat} (hRead : ¬ m.Misread) (hCap : m.Part cap)
    (h : Reached S m.bytes rest o r inBuffer t) (hr : r < cap) :
    ((firstByte inBuffer t).andThen remainingLength).Within S m.bytes rest o cap m.headerLength
      cap := by
  have hHeader := m.headerLength_bounds
  have hHeaderLe := m.headerLength_le
  have hLe := hCap.le
  have hWhole := hCap.whole
  refine (firstByte_within h (by omega)).andThen (by omega) fun r' buf t' hLow hHigh hReached => ?_
  have hr' : 1 ≤ r' ∧ r' < cap := by omega
  rw [remainingLength, hReached.length (by omega)]
  by_cases hIn : r' < m.headerLength
  · have hMore : r' = 1 ∨ Continued buf := by
      by_cases hOne : r' = 1
      · exact Or.inl hOne
      · refine Or.inr ((continued_iff hReached hr'.1 (by omega)).mpr ⟨by omega, ?_⟩)
        rw [m.bytes_header (by omega) (by omega)]
        omega
    rw [if_pos hMore]
    exact readLength_within hRead hCap hReached hr'.1 hr'.2 (Or.inl hIn)
  · split
    · rename_i hMore
      exact readLength_within hRead hCap hReached hr'.1 hr'.2
        (Or.inr (hMore.resolve_left (by omega)))
    · exact go_within hReached (Nat.not_lt.mp hIn) hr'.2.le

end Incoming

namespace Publish

variable {p : Publish} {dup : Nat} {rest : List UInt8} {r : Nat} {inBuffer : List UInt8}
  {t : Transport}

/-- A long message is taken up to the end of the buffer, once its topic is there. -/
theorem readBody_within (hDup : dup < 2) {inBufferLength : Nat} (hBuffer : 9 ≤ inBufferLength)
    (hStart : p.dataStart ≤ inBufferLength) (hLong : inBufferLength < (p.bytes dup).length)
    (hLens : headerLength p.body ≤ 5) (h : Reached S (p.bytes dup) rest o r inBuffer t)
    (hLow : headerLength p.body ≤ r) (hHigh : r ≤ inBufferLength) :
    (readBody inBufferLength (p.bytes dup).length (headerLength p.body) inBuffer t).Within
      S (p.bytes dup) rest o inBufferLength inBufferLength inBufferLength := by
  have hTopic := p.topic_pos
  have hVariable := p.header_length
  have hStartEq : p.dataStart = headerLength p.body + p.header.length := rfl
  have hFirst : ∀ {r : Nat} {inBuffer : List UInt8} {t : Transport}, 1 ≤ r →
      Reached S (p.bytes dup) rest o r inBuffer t →
      getType inBuffer = some .publish ∧ getQos inBuffer = p.qos := by
    intro r inBuffer t hr h
    obtain ⟨hType, -, hQos, -⟩ := p.flags_shown hDup h.shows hr
    exact ⟨hType, hQos⟩
  have hPos : 1 ≤ headerLength p.body := by
    rw [headerLength]
    exact Nat.le_add_right _ _
  rw [readBody, if_pos hLong, if_pos (hFirst (by omega) h).1]
  dsimp only
  have hPart : (if inBuffer.length < headerLength p.body + 2 then
      readUpTo (headerLength p.body + 2) (inBuffer.length - headerLength p.body + 2) inBuffer t
      else .go inBuffer t).Within S (p.bytes dup) rest o inBufferLength (headerLength p.body + 2)
        inBufferLength := by
    rw [h.length (by omega)]
    split
    · have hRead := readUpTo_within h ‹_› (show 0 < r - headerLength p.body + 2 by omega)
        (by omega)
      exact hRead.mono (by omega) (by omega)
    · exact go_within h (Nat.not_lt.mp ‹_›) hHigh
  refine hPart.andThen le_rfl fun r' buf t' hLow' hHigh' hReached => ?_
  have hTopicLength : twoBytes buf (headerLength p.body) = p.topic.length := by
    rw [hReached.shows.twoBytes hLow', twoBytes_topic]
  rw [hTopicLength, (hFirst (by omega) hReached).2, if_neg (by omega)]
  exact readRest_within hReached hHigh' hLong.le

end Publish

namespace Incoming

variable {m : Incoming} {rest : List UInt8} {S : Supply} {o : Origin} {r : Nat}
  {inBuffer : List UInt8} {t : Transport}

/-- What a call returns, and how much of the message is in the buffer then. -/
def Returns (m : Incoming) (S : Supply) (rest : List UInt8) (o : Origin) (cap : Nat)
    (call : Received × Nat × List UInt8 × Transport) : Prop :=
  match call with
  | (.message, messageLength, inBuffer, t) =>
    messageLength = m.bytes.length ∧ Reached S m.bytes rest o cap inBuffer t
  | (.nothing, _, inBuffer, t) =>
    ∃ r < cap, Reached S m.bytes rest o r inBuffer t ∧ (o.fed → o.start < r)
  | (.failed, _, _, _) => ¬ o.fed

theorem returns_of_within {inBufferLength cap : Nat} (hRead : ¬ m.Misread) (hCap : m.Part cap)
    (hBody : ∀ r inBuffer t, m.headerLength ≤ r → r ≤ cap → Reached S m.bytes rest o r inBuffer t →
      (readBody inBufferLength m.bytes.length m.headerLength inBuffer t).Within S m.bytes rest o
        cap cap cap)
    (h : Reached S m.bytes rest o r inBuffer t) (hr : r < cap) :
    m.Returns S rest o cap (mqttMessageReceive inBufferLength inBuffer t) := by
  obtain ⟨r', hReached, hStop⟩ := header_within hRead hCap h hr
  rw [mqttMessageReceive]
  cases hHeader : ((firstByte inBuffer t).andThen remainingLength).stop with
  | none =>
    rw [hHeader] at hStop
    have hLength := hReached.length (hStop.2.trans hCap.le)
    have hTotal := mqttGetTotalLength_frame m.first m.body [] hStop.1
    rw [List.append_nil] at hTotal
    have hSeen : mqttGetTotalLength ((firstByte inBuffer t).andThen remainingLength).inBuffer
        ((firstByte inBuffer t).andThen remainingLength).inBuffer.length =
          (m.bytes.length, m.headerLength) := by
      rw [hLength, mqttGetTotalLength, hReached.shows.fixedHeader]
      exact hTotal
    obtain ⟨r'', hLater, hEnd⟩ := hBody r' _ _ hStop.1 hStop.2 hReached
    simp only [hSeen]
    generalize readBody inBufferLength m.bytes.length m.headerLength _ _ = p at hLater hEnd ⊢
    cases hBodyStop : p.stop with
    | none =>
      rw [hBodyStop] at hEnd
      refine ⟨rfl, ?_⟩
      rwa [le_antisymm hEnd.2 hEnd.1] at hLater
    | some result =>
      rw [hBodyStop] at hEnd
      cases result with
      | message => exact hEnd.elim
      | failed => exact hEnd.2
      | nothing => exact ⟨r'', hEnd.1, hLater, hEnd.2⟩
  | some result =>
    rw [hHeader] at hStop
    cases result with
    | message => exact hStop.elim
    | failed => exact hStop.2
    | nothing => exact ⟨r', hStop.1, hReached, hStop.2⟩

/-- A call with a message that fits into the buffer. -/
theorem returns_whole (hRead : ¬ m.Misread) {inBufferLength : Nat}
    (hFits : m.bytes.length ≤ inBufferLength) (h : Reached S m.bytes rest o r inBuffer t)
    (hr : r < m.bytes.length) :
    m.Returns S rest o m.bytes.length (mqttMessageReceive inBufferLength inBuffer t) := by
  refine returns_of_within hRead ⟨le_rfl, Or.inl rfl⟩ (fun r' buf t' _ hHigh hReached => ?_) h hr
  rw [readBody, if_neg (Nat.not_lt.mpr hFits)]
  exact readRest_within hReached hHigh le_rfl

end Incoming

end FcomGateway.Mqtt
