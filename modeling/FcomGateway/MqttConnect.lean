import FcomGateway.MqttRoundTrip

/-! # The message that opens a connection

`mqtt_msg_connect`. The flags stand in the variable header and tell which texts follow it; they are
set while the texts are written. A reader has the flags only.
-/

namespace FcomGateway.Mqtt

open Varint

inductive ProtocolVer
  | v31
  | v311
  deriving DecidableEq, Repr

/-- `mqtt_connect_info_t`; a text is the C string, empty for `NULL`, and the last will has
`will_length` bytes. -/
structure ConnectInfo where
  clientId : List UInt8
  username : List UInt8
  password : List UInt8
  willTopic : List UInt8
  willMessage : List UInt8
  keepalive : Nat
  willQos : Nat
  willRetain : Bool
  cleanSession : Bool
  protocolVer : ProtocolVer

def MQTT_CONNECT_FLAG_USERNAME : UInt8 := 0x80
def MQTT_CONNECT_FLAG_PASSWORD : UInt8 := 0x40
def MQTT_CONNECT_FLAG_WILL_RETAIN : UInt8 := 0x20
def MQTT_CONNECT_FLAG_WILL : UInt8 := 0x04
def MQTT_CONNECT_FLAG_CLEAN_SESSION : UInt8 := 0x02

namespace ProtocolVer

/-- `MQIsdp` and `MQTT` -/
def name : ProtocolVer → List UInt8
  | v31 => [0x4D, 0x51, 0x49, 0x73, 0x64, 0x70]
  | v311 => [0x4D, 0x51, 0x54, 0x54]

def level : ProtocolVer → UInt8
  | v31 => 3
  | v311 => 4

def flagsOffset : ProtocolVer → Nat
  | v31 => 9
  | v311 => 7

end ProtocolVer

namespace ConnectInfo

variable (info : ConnectInfo) (bufferLength : Nat)

def variableHeader : List UInt8 :=
  0 :: UInt8.ofNat info.protocolVer.name.length ::
    (info.protocolVer.name ++ info.protocolVer.level :: 0 :: bigEndian info.keepalive)

/-- `variable_header[flags_offset] |= flag` -/
def setFlag (flag : UInt8) (body : List UInt8) : List UInt8 :=
  body.modify info.protocolVer.flagsOffset (· ||| flag)

def appendWill (body : List UInt8) : Option (List UInt8) :=
  if info.willTopic = [] then some body
  else (appendString bufferLength body info.willTopic).bind fun body =>
    (appendString bufferLength body info.willMessage).bind fun body =>
      let body := info.setFlag MQTT_CONNECT_FLAG_WILL body
      let body := if info.willRetain then info.setFlag MQTT_CONNECT_FLAG_WILL_RETAIN body else body
      some (info.setFlag (UInt8.ofNat ((info.willQos &&& 3) <<< 3)) body)

def appendUsername (body : List UInt8) : Option (List UInt8) :=
  if info.username = [] then some body
  else (appendString bufferLength body info.username).bind fun body =>
    some (info.setFlag MQTT_CONNECT_FLAG_USERNAME body)

/-- A password without a name is given an empty name. -/
def appendPassword (body : List UInt8) : Option (List UInt8) :=
  if info.password = [] then some body
  else
    let named := if info.username = [] then (appendString bufferLength body []).bind fun body =>
      some (info.setFlag MQTT_CONNECT_FLAG_USERNAME body) else some body
    named.bind fun body => (appendString bufferLength body info.password).bind fun body =>
      some (info.setFlag MQTT_CONNECT_FLAG_PASSWORD body)

end ConnectInfo

def mqttMsgConnect (c : MqttConnection) (info : ConnectInfo) : MqttConnection :=
  let body := info.variableHeader
  if MQTT_MAX_FIXED_HEADER_SIZE + body.length > c.bufferLength then failMessage c
  else
    let body := if info.cleanSession then info.setFlag MQTT_CONNECT_FLAG_CLEAN_SESSION body
      else body
    let written := (appendString c.bufferLength body info.clientId).bind fun body =>
      (info.appendWill c.bufferLength body).bind fun body =>
        (info.appendUsername c.bufferLength body).bind (info.appendPassword c.bufferLength)
    match written with
    | none => failMessage c
    | some body => finiMessage c body .connect 0 0 0

/-! ## What it says -/

structure Will where
  topic : List UInt8
  message : List UInt8
  qos : Nat
  retain : Bool
  deriving DecidableEq, Repr

/-- What a broker learns of a client. -/
structure Connect where
  protocol : List UInt8
  level : UInt8
  cleanSession : Bool
  keepalive : Nat
  clientId : List UInt8
  will : Option Will
  username : Option (List UInt8)
  password : Option (List UInt8)
  deriving DecidableEq, Repr

def readString (bytes : List UInt8) : Option (List UInt8 × List UInt8) :=
  let length := twoBytes bytes 0
  if 2 + length ≤ bytes.length then some ((bytes.drop 2).take length, bytes.drop (2 + length))
  else none

/-- A text that is there when a bit of the flags is set. -/
def readIf (present : Bool) (bytes : List UInt8) : Option (Option (List UInt8) × List UInt8) :=
  if present then (readString bytes).map fun (text, rest) => (some text, rest)
  else some (none, bytes)

def hasFlag (flags flag : UInt8) : Bool := decide (flags &&& flag ≠ 0)

def readWill (flags : UInt8) (bytes : List UInt8) : Option (Option Will × List UInt8) :=
  if hasFlag flags MQTT_CONNECT_FLAG_WILL then
    (readString bytes).bind fun (topic, rest) =>
      (readString rest).map fun (message, rest) =>
        (some ⟨topic, message, ((flags >>> 3) &&& 3).toNat,
          hasFlag flags MQTT_CONNECT_FLAG_WILL_RETAIN⟩, rest)
  else some (none, bytes)

/-- The payload of a `CONNECT` by its flags, to the last byte. A bit that is reserved, or a password
without a name, is a violation of the protocol. -/
def readConnect (bytes : List UInt8) : Option Connect :=
  (readString bytes).bind fun (protocol, rest) =>
    match rest with
    | level :: flags :: high :: low :: rest =>
      (readString rest).bind fun (clientId, rest) =>
        (readWill flags rest).bind fun (will, rest) =>
          (readIf (hasFlag flags MQTT_CONNECT_FLAG_USERNAME) rest).bind fun (username, rest) =>
            (readIf (hasFlag flags MQTT_CONNECT_FLAG_PASSWORD) rest).bind fun (password, rest) =>
              if rest = [] ∧ flags &&& 1 = 0 ∧ (password.isSome → username.isSome) then
                some ⟨protocol, level, hasFlag flags MQTT_CONNECT_FLAG_CLEAN_SESSION,
                  twoBytes [high, low] 0, clientId, will, username, password⟩
              else none
    | _ => none

namespace ConnectInfo

def string (text : List UInt8) : List UInt8 := bigEndian text.length ++ text

variable (info : ConnectInfo)

def will : Option Will :=
  if info.willTopic = [] then none
  else some ⟨info.willTopic, info.willMessage, info.willQos % 4, info.willRetain⟩

/-- What is meant by the texts that are there. -/
def said : Connect where
  protocol := info.protocolVer.name
  level := info.protocolVer.level
  cleanSession := info.cleanSession
  keepalive := info.keepalive
  clientId := info.clientId
  will := info.will
  username := if info.username = [] ∧ info.password = [] then none else some info.username
  password := if info.password = [] then none else some info.password

def willFlags : UInt8 :=
  if info.willTopic = [] then 0
  else MQTT_CONNECT_FLAG_WILL ||| ((if info.willRetain then MQTT_CONNECT_FLAG_WILL_RETAIN
    else 0) ||| UInt8.ofNat ((info.willQos &&& 3) <<< 3))

def willBytes : List UInt8 :=
  if info.willTopic = [] then [] else string info.willTopic ++ string info.willMessage

def usernameFlags : UInt8 := if info.username = [] then 0 else MQTT_CONNECT_FLAG_USERNAME

def usernameBytes : List UInt8 := if info.username = [] then [] else string info.username

def passwordFlags : UInt8 :=
  if info.password = [] then 0
  else (if info.username = [] then MQTT_CONNECT_FLAG_USERNAME else 0) ||| MQTT_CONNECT_FLAG_PASSWORD

def passwordBytes : List UInt8 :=
  if info.password = [] then []
  else (if info.username = [] then string [] else []) ++ string info.password

def sessionFlags : UInt8 := if info.cleanSession then MQTT_CONNECT_FLAG_CLEAN_SESSION else 0

def flags : UInt8 :=
  info.sessionFlags ||| (info.willFlags ||| (info.usernameFlags ||| info.passwordFlags))

def payload : List UInt8 :=
  string info.clientId ++ (info.willBytes ++ (info.usernameBytes ++ info.passwordBytes))

/-- The bytes before the flags. -/
def lead : List UInt8 :=
  0 :: UInt8.ofNat info.protocolVer.name.length ::
    (info.protocolVer.name ++ [info.protocolVer.level])

def laid (flags : UInt8) (payload : List UInt8) : List UInt8 :=
  info.lead ++ flags :: (bigEndian info.keepalive ++ payload)

/-! ## What is written -/

theorem laid_length (flags : UInt8) (payload : List UInt8) :
    (info.laid flags payload).length = info.lead.length + 3 + payload.length := by
  rw [laid, List.length_append, List.length_cons, List.length_append]
  change _ + (2 + _ + 1) = _
  omega

theorem setFlag_laid (flag flags : UInt8) (payload : List UInt8) :
    info.setFlag flag (info.laid flags payload) = info.laid (flags ||| flag) payload := by
  rw [setFlag, laid, laid, lead]
  cases info.protocolVer <;> rfl

def Fits (bufferLength : Nat) (payload : List UInt8) : Prop :=
  MQTT_MAX_FIXED_HEADER_SIZE + (info.laid 0 payload).length ≤ bufferLength

instance (bufferLength : Nat) (payload : List UInt8) : Decidable (info.Fits bufferLength payload) :=
  inferInstanceAs (Decidable (_ ≤ _))

variable {info} {bufferLength : Nat}

theorem Fits.before {payload text : List UInt8} (h : info.Fits bufferLength (payload ++ text)) :
    info.Fits bufferLength payload := by
  rw [Fits, laid_length] at *
  rw [List.length_append] at h
  omega

/-- A part of the function writes these bytes and sets these flags, or it finds no room. -/
def Appends (info : ConnectInfo) (bufferLength : Nat) (write : List UInt8 → Option (List UInt8))
    (flag : UInt8) (text : List UInt8) : Prop :=
  ∀ flags payload, info.Fits bufferLength payload → write (info.laid flags payload) =
    if info.Fits bufferLength (payload ++ text) then
      some (info.laid (flags ||| flag) (payload ++ text)) else none

theorem Appends.nothing : Appends info bufferLength some 0 [] := by
  intro flags payload hFits
  rw [List.append_nil, if_pos hFits, UInt8.or_zero]

theorem Appends.of_flags (set : List UInt8 → List UInt8) {flag : UInt8}
    (h : ∀ flags payload, set (info.laid flags payload) = info.laid (flags ||| flag) payload) :
    Appends info bufferLength (fun body => some (set body)) flag [] := by
  intro flags payload hFits
  dsimp only
  rw [List.append_nil, if_pos hFits, h]

theorem Appends.flag (info : ConnectInfo) (bufferLength : Nat) (flag : UInt8) :
    Appends info bufferLength (fun body => some (info.setFlag flag body)) flag [] :=
  .of_flags _ (info.setFlag_laid flag)

theorem Appends.string (info : ConnectInfo) (bufferLength : Nat) (text : List UInt8) :
    Appends info bufferLength (fun body => appendString bufferLength body text) 0
      (string text) := by
  intro flags payload _
  have hBytes : info.laid flags payload ++ bigEndian text.length ++ text =
      info.laid flags (payload ++ ConnectInfo.string text) := by
    rw [laid, laid, ConnectInfo.string]
    simp only [List.append_assoc, List.cons_append]
  have hRoom : MQTT_MAX_FIXED_HEADER_SIZE + (info.laid flags payload).length + text.length + 2 >
      bufferLength ↔ ¬ info.Fits bufferLength (payload ++ ConnectInfo.string text) := by
    rw [Fits, laid_length, laid_length, List.length_append, ConnectInfo.string,
      List.length_append, bigEndian_length]
    omega
  dsimp only
  rw [appendString, hBytes, UInt8.or_zero]
  by_cases hFits : info.Fits bufferLength (payload ++ ConnectInfo.string text)
  · rw [if_pos hFits, if_neg (fun h => hRoom.mp h hFits)]
  · rw [if_neg hFits, if_pos (hRoom.mpr hFits)]

theorem Appends.bind {first second : List UInt8 → Option (List UInt8)} {flag flag' : UInt8}
    {text text' : List UInt8} (hFirst : Appends info bufferLength first flag text)
    (hSecond : Appends info bufferLength second flag' text') :
    Appends info bufferLength (fun body => (first body).bind second) (flag ||| flag')
      (text ++ text') := by
  intro flags payload hFits
  dsimp only
  rw [hFirst flags payload hFits, ← List.append_assoc, ← UInt8.or_assoc]
  by_cases hText : info.Fits bufferLength (payload ++ text)
  · rw [if_pos hText, Option.bind_some]
    exact hSecond _ _ hText
  · rw [if_neg hText, if_neg fun h => hText h.before]
    rfl

/-- A text and its flag. -/
theorem Appends.text (info : ConnectInfo) (bufferLength : Nat) (text : List UInt8) (flag : UInt8) :
    Appends info bufferLength (fun body => (appendString bufferLength body text).bind fun body =>
      some (info.setFlag flag body)) flag (ConnectInfo.string text) := by
  have hAll := (Appends.string info bufferLength text).bind (.flag info bufferLength flag)
  rwa [UInt8.zero_or, List.append_nil] at hAll

variable (info bufferLength)

theorem appendWill_appends :
    Appends info bufferLength (info.appendWill bufferLength) info.willFlags info.willBytes := by
  by_cases hNone : info.willTopic = []
  · have hWrite : info.appendWill bufferLength = some := funext fun body => if_pos hNone
    rw [hWrite, willFlags, willBytes, if_pos hNone, if_pos hNone]
    exact .nothing
  · have hFlags : Appends info bufferLength (fun body =>
        let body := info.setFlag MQTT_CONNECT_FLAG_WILL body
        let body := if info.willRetain then info.setFlag MQTT_CONNECT_FLAG_WILL_RETAIN body
          else body
        some (info.setFlag (UInt8.ofNat ((info.willQos &&& 3) <<< 3)) body))
        info.willFlags [] := by
      refine .of_flags (fun body => info.setFlag _ (if info.willRetain then _ else _))
        fun flags payload => ?_
      rw [willFlags, if_neg hNone]
      split
      · rw [setFlag_laid, setFlag_laid, setFlag_laid, UInt8.or_assoc, UInt8.or_assoc]
      · rw [setFlag_laid, setFlag_laid, UInt8.zero_or, UInt8.or_assoc]
    have hAll := (Appends.string info bufferLength info.willTopic).bind
      ((Appends.string info bufferLength info.willMessage).bind hFlags)
    rw [UInt8.zero_or, UInt8.zero_or, List.append_nil] at hAll
    have hWrite : info.appendWill bufferLength = _ := funext fun body => if_neg hNone
    rw [hWrite, willBytes, if_neg hNone]
    exact hAll

theorem appendUsername_appends : Appends info bufferLength (info.appendUsername bufferLength)
    info.usernameFlags info.usernameBytes := by
  by_cases hNone : info.username = []
  · have hWrite : info.appendUsername bufferLength = some := funext fun body => if_pos hNone
    rw [hWrite, usernameFlags, usernameBytes, if_pos hNone, if_pos hNone]
    exact .nothing
  · have hWrite : info.appendUsername bufferLength = _ := funext fun body => if_neg hNone
    rw [hWrite, usernameFlags, usernameBytes, if_neg hNone, if_neg hNone]
    exact .text info bufferLength info.username MQTT_CONNECT_FLAG_USERNAME

theorem appendPassword_appends : Appends info bufferLength (info.appendPassword bufferLength)
    info.passwordFlags info.passwordBytes := by
  by_cases hNone : info.password = []
  · have hWrite : info.appendPassword bufferLength = some := funext fun body => if_pos hNone
    rw [hWrite, passwordFlags, passwordBytes, if_pos hNone, if_pos hNone]
    exact .nothing
  · have hWrite : info.appendPassword bufferLength = _ := funext fun body => if_neg hNone
    rw [hWrite, passwordFlags, passwordBytes, if_neg hNone, if_neg hNone]
    have hPassword := Appends.text info bufferLength info.password MQTT_CONNECT_FLAG_PASSWORD
    by_cases hName : info.username = []
    · simp only [if_pos hName]
      exact (Appends.text info bufferLength [] MQTT_CONNECT_FLAG_USERNAME).bind hPassword
    · simp only [if_neg hName]
      exact Appends.nothing.bind hPassword

theorem variableHeader_eq : info.variableHeader = info.laid 0 [] := by
  rw [variableHeader, laid, lead, List.append_nil]
  simp only [List.cons_append, List.append_assoc, List.nil_append]

end ConnectInfo

/-- The message is built exactly if the buffer has room for all of it. -/
theorem mqttMsgConnect_eq (c : MqttConnection) (info : ConnectInfo) : mqttMsgConnect c info =
    if info.Fits c.bufferLength info.payload then
      finiMessage c (info.laid info.flags info.payload) .connect 0 0 0
    else failMessage c := by
  have hSession : (if info.cleanSession then
      info.setFlag MQTT_CONNECT_FLAG_CLEAN_SESSION info.variableHeader else info.variableHeader) =
      info.laid info.sessionFlags [] := by
    rw [ConnectInfo.variableHeader_eq, ConnectInfo.sessionFlags]
    split
    · rw [ConnectInfo.setFlag_laid, UInt8.zero_or]
    · rfl
  have hWritten := (ConnectInfo.Appends.string info c.bufferLength info.clientId).bind
    ((info.appendWill_appends c.bufferLength).bind
      ((info.appendUsername_appends c.bufferLength).bind
        (info.appendPassword_appends c.bufferLength))) info.sessionFlags []
  rw [UInt8.zero_or] at hWritten
  change info.Fits c.bufferLength [] → _ = if info.Fits c.bufferLength info.payload then
    some (info.laid info.flags info.payload) else none at hWritten
  rw [mqttMsgConnect, hSession]
  dsimp only at hWritten ⊢
  by_cases hHeader : info.Fits c.bufferLength []
  · rw [if_neg (by rw [ConnectInfo.variableHeader_eq]; exact Nat.not_lt.mpr hHeader),
      hWritten hHeader]
    by_cases hFits : info.Fits c.bufferLength info.payload
    · rw [if_pos hFits, if_pos hFits]
    · rw [if_neg hFits, if_neg hFits]
  · have hNone : ¬ info.Fits c.bufferLength ([] ++ info.payload) := fun hFits =>
      hHeader hFits.before
    rw [List.nil_append] at hNone
    rw [if_pos (by rw [ConnectInfo.variableHeader_eq]; exact Nat.not_le.mp hHeader), if_neg hNone]

/-! ## What is read -/

theorem readString_string {text : List UInt8} (h : text.length < 65536) (rest : List UInt8) :
    readString (ConnectInfo.string text ++ rest) = some (text, rest) := by
  have hLength : twoBytes (ConnectInfo.string text ++ rest) 0 = text.length := by
    rw [ConnectInfo.string, List.append_assoc]
    exact twoBytes_bigEndian [] _ h
  have hAll : (ConnectInfo.string text).length = 2 + text.length := by
    rw [ConnectInfo.string, List.length_append, bigEndian_length]
  rw [readString, hLength]
  rw [if_pos (by rw [List.length_append]; omega), ← hAll, List.drop_left, ConnectInfo.string,
    List.append_assoc]
  exact congrArg (fun text => some (text, rest)) List.take_left

theorem flags_bits (clean will retain named secret : Bool) (qos : Fin 4) (flags : UInt8)
    (h : flags = (if clean then MQTT_CONNECT_FLAG_CLEAN_SESSION else 0) |||
      ((if will then MQTT_CONNECT_FLAG_WILL ||| ((if retain then MQTT_CONNECT_FLAG_WILL_RETAIN
        else 0) ||| UInt8.ofNat (qos.val <<< 3)) else 0) |||
      ((if named then MQTT_CONNECT_FLAG_USERNAME else 0) |||
        (if secret then (if named then 0 else MQTT_CONNECT_FLAG_USERNAME) |||
          MQTT_CONNECT_FLAG_PASSWORD else 0)))) :
    hasFlag flags MQTT_CONNECT_FLAG_CLEAN_SESSION = clean ∧
      hasFlag flags MQTT_CONNECT_FLAG_WILL = will ∧
      (will = true → hasFlag flags MQTT_CONNECT_FLAG_WILL_RETAIN = retain ∧
        ((flags >>> 3) &&& 3).toNat = qos) ∧
      hasFlag flags MQTT_CONNECT_FLAG_USERNAME = (named || secret) ∧
      hasFlag flags MQTT_CONNECT_FLAG_PASSWORD = secret ∧ flags &&& 1 = 0 := by
  subst h
  revert clean will retain named secret qos
  decide +kernel

namespace ConnectInfo

/-- What fits behind a length of two bytes. -/
structure Short (info : ConnectInfo) : Prop where
  clientId : info.clientId.length < 65536
  username : info.username.length < 65536
  password : info.password.length < 65536
  willTopic : info.willTopic.length < 65536
  willMessage : info.willMessage.length < 65536
  keepalive : info.keepalive < 65536

variable (info : ConnectInfo)

theorem flags_say : hasFlag info.flags MQTT_CONNECT_FLAG_CLEAN_SESSION = info.cleanSession ∧
    hasFlag info.flags MQTT_CONNECT_FLAG_WILL = decide (info.willTopic ≠ []) ∧
    (decide (info.willTopic ≠ []) = true →
      hasFlag info.flags MQTT_CONNECT_FLAG_WILL_RETAIN = info.willRetain ∧
        ((info.flags >>> 3) &&& 3).toNat = info.willQos % 4) ∧
    hasFlag info.flags MQTT_CONNECT_FLAG_USERNAME =
      (decide (info.username ≠ []) || decide (info.password ≠ [])) ∧
    hasFlag info.flags MQTT_CONNECT_FLAG_PASSWORD = decide (info.password ≠ []) ∧
    info.flags &&& 1 = 0 := by
  refine flags_bits info.cleanSession (decide (info.willTopic ≠ [])) info.willRetain
    (decide (info.username ≠ [])) (decide (info.password ≠ []))
    ⟨info.willQos % 4, Nat.mod_lt _ (by decide)⟩ info.flags ?_
  have hQos : info.willQos &&& 3 = info.willQos % 4 := Nat.and_two_pow_sub_one_eq_mod _ 2
  rw [flags, sessionFlags, willFlags, usernameFlags, passwordFlags, hQos]
  simp only [decide_eq_true_eq, ne_eq, ite_not]

variable {info}

theorem readWill_said (h : info.Short) (rest : List UInt8) :
    readWill info.flags (info.willBytes ++ rest) = some (info.will, rest) := by
  obtain ⟨-, hWill, hBits, -⟩ := info.flags_say
  rw [readWill, hWill, willBytes, will]
  by_cases hNone : info.willTopic = []
  · rw [if_pos hNone, if_pos hNone, if_neg (by rw [decide_eq_true_iff]; exact not_not.mpr hNone)]
    rfl
  · have hTopic : decide (info.willTopic ≠ []) = true := decide_eq_true hNone
    obtain ⟨hRetain, hQos⟩ := hBits hTopic
    rw [if_neg hNone, if_neg hNone, if_pos hTopic, List.append_assoc,
      readString_string h.willTopic, Option.bind_some]
    dsimp only
    rw [readString_string h.willMessage, hRetain, hQos]
    rfl

/-- What is left for the password. -/
theorem readIf_username (h : info.Short) :
    readIf (decide (info.username ≠ []) || decide (info.password ≠ []))
      (info.usernameBytes ++ info.passwordBytes) =
      some (info.said.username, if info.password = [] then [] else string info.password) := by
  rw [usernameBytes, passwordBytes, said]
  dsimp only
  by_cases hName : info.username = []
  · by_cases hNone : info.password = []
    · simp only [hName, hNone, ne_eq, not_true_eq_false, decide_false, Bool.or_self, readIf,
        Bool.false_eq_true, ite_false, ite_true, and_self, List.append_nil]
    · simp only [hName, hNone, ne_eq, not_true_eq_false, not_false_eq_true, decide_false,
        decide_true, Bool.or_true, readIf, ite_false, ite_true, and_false, List.nil_append]
      rw [readString_string (by decide)]
      rfl
  · have hPresent : (decide (info.username ≠ []) || decide (info.password ≠ [])) = true := by
      rw [decide_eq_true hName, Bool.true_or]
    have hSome : ¬ (info.username = [] ∧ info.password = []) := fun hBoth => hName hBoth.1
    rw [hPresent, readIf, if_pos rfl, if_neg hName, if_neg hName,
      readString_string h.username, if_neg hSome, List.nil_append]
    rfl

theorem readIf_password (h : info.Short) : readIf (decide (info.password ≠ []))
    (if info.password = [] then [] else string info.password) = some (info.said.password, []) := by
  rw [said, readIf]
  dsimp only
  by_cases hNone : info.password = []
  · rw [if_pos hNone, if_pos hNone, if_neg (by rw [decide_eq_true_iff]; exact not_not.mpr hNone)]
  · have hRead := readString_string h.password []
    rw [List.append_nil] at hRead
    rw [if_neg hNone, if_neg hNone, if_pos (decide_eq_true hNone), hRead]
    rfl

theorem laid_eq (info : ConnectInfo) (flags : UInt8) (payload : List UInt8) :
    info.laid flags payload = string info.protocolVer.name ++
      (info.protocolVer.level :: flags :: (bigEndian info.keepalive ++ payload)) := by
  rw [laid, lead, string]
  cases info.protocolVer <;> rfl

/-- A password is never without a name. -/
theorem said_named (info : ConnectInfo) :
    info.said.password.isSome = true → info.said.username.isSome = true := by
  rw [said]
  dsimp only
  by_cases hNone : info.password = []
  · rw [if_pos hNone]
    exact nofun
  · have hSome : ¬ (info.username = [] ∧ info.password = []) := fun hBoth => hNone hBoth.2
    rw [if_neg hSome]
    exact fun _ => rfl

theorem readConnect_laid (h : info.Short) :
    readConnect (info.laid info.flags info.payload) = some info.said := by
  obtain ⟨hClean, -, -, hName, hPassword, hReserved⟩ := info.flags_say
  have hProtocol : info.protocolVer.name.length < 65536 := by
    cases info.protocolVer <;> decide
  have hKeepalive : twoBytes (bigEndian info.keepalive) 0 = info.keepalive :=
    twoBytes_bigEndian [] [] h.keepalive
  rw [readConnect, laid_eq, readString_string hProtocol, Option.bind_some]
  change (readString (string info.clientId ++ _)).bind _ = _
  rw [readString_string h.clientId, Option.bind_some]
  dsimp only
  rw [readWill_said h, Option.bind_some]
  dsimp only
  rw [hName, readIf_username h, Option.bind_some]
  dsimp only
  rw [hPassword, readIf_password h, Option.bind_some]
  dsimp only
  rw [if_pos ⟨rfl, hReserved, info.said_named⟩, hClean]
  change some { info.said with keepalive := twoBytes (bigEndian info.keepalive) 0 } = _
  rw [hKeepalive]
  rfl

theorem payload_length (h : info.Short) : (info.laid info.flags info.payload).length < 128 ^ 4 := by
  have hString : ∀ text, (string text).length = 2 + text.length := fun text => by
    rw [string, List.length_append, bigEndian_length]
  have hLead : info.lead.length ≤ 9 := by
    rw [lead]
    cases info.protocolVer <;> decide
  have hWill : info.willBytes.length ≤ 4 + info.willTopic.length + info.willMessage.length := by
    rw [willBytes]
    split
    · exact Nat.zero_le _
    · rw [List.length_append, hString, hString]
      omega
  have hUsername : info.usernameBytes.length ≤ 2 + info.username.length := by
    rw [usernameBytes]
    split
    · exact Nat.zero_le _
    · exact (hString _).le
  have hPassword : info.passwordBytes.length ≤ 4 + info.password.length := by
    rw [passwordBytes]
    split
    · exact Nat.zero_le _
    · rw [List.length_append, hString]
      split
      · rw [hString, List.length_nil]
        omega
      · rw [List.length_nil]
        omega
  obtain ⟨hId, hName, hSecret, hTopic, hMessage, -⟩ := h
  rw [laid_length, payload, List.length_append, List.length_append, List.length_append, hString]
  omega

end ConnectInfo

/-! ## What a broker reads -/

/-- What the functions that take a message apart find, and what a broker reads behind the fixed
header. -/
structure ConnectReads (info : ConnectInfo) (m : List UInt8) : Prop where
  type : getType m = some .connect
  valid : mqttHasValidMsgHdr m m.length = true
  total : (mqttGetTotalLength m m.length).1 = m.length
  said : readConnect (m.drop (mqttGetTotalLength m m.length).2) = some info.said

/-- None is built exactly if the buffer is too short for it, and what is built says what was
configured exactly if no other length is left over. -/
theorem mqttMsgConnect_reads {info : ConnectInfo} (h : info.Short) {c : MqttConnection}
    (hRemains : Remains c) : ((mqttMsgConnect c info).message.data = [] ↔
      c.bufferLength < MQTT_MAX_FIXED_HEADER_SIZE + (info.laid info.flags info.payload).length) ∧
    ((mqttMsgConnect c info).message.data ≠ [] →
      (ConnectReads info (mqttMsgConnect c info).message.data ↔
        RightLength c.message.fragmentedMsgTotalLength (info.laid info.flags info.payload))) := by
  have hRoom : MQTT_MAX_FIXED_HEADER_SIZE + (info.laid info.flags info.payload).length ≤
      c.bufferLength ↔ info.Fits c.bufferLength info.payload := by
    rw [ConnectInfo.Fits, ConnectInfo.laid_length, ConnectInfo.laid_length]
  rw [mqttMsgConnect_eq]
  by_cases hFits : info.Fits c.bufferLength info.payload
  · obtain ⟨hSome, hFrame, hWrong⟩ :=
      finiMessage_remains hRemains (ConnectInfo.payload_length h) .connect 0 0 0
    rw [if_pos hFits]
    refine ⟨iff_of_false hSome (Nat.not_lt.mpr (hRoom.mpr hFits)), fun _ => ?_⟩
    refine ⟨fun hReads => by_contra fun hNot => hWrong hNot hReads.total, fun hLength => ?_⟩
    rw [hFrame hLength]
    generalize hBody : info.laid info.flags info.payload = body
    have hControl : MessageType.connect ≠ .publish := nofun
    obtain ⟨hType, hValid⟩ := valid_control hControl (encode body.length ++ body)
    have hHeader : headerLength body ≤ (frame (typeByte .connect 0 0 0) body).length := by
      rw [frame_length]
      exact Nat.le_add_right _ _
    have hTotal := mqttGetTotalLength_frame (typeByte .connect 0 0 0) body [] hHeader
    rw [List.append_nil] at hTotal
    refine ⟨hType, hValid, congrArg Prod.fst hTotal, ?_⟩
    have hDrop := drop_frame (typeByte .connect 0 0 0) body 0
    rw [Nat.add_zero, List.drop_zero] at hDrop
    rw [hTotal, hDrop, ← hBody]
    exact ConnectInfo.readConnect_laid h
  · rw [if_neg hFits]
    exact ⟨iff_of_true rfl (Nat.not_le.mp fun hLe => hFits (hRoom.mp hLe)),
      fun hSome => absurd rfl hSome⟩

/-- A password alone. -/
def sampleConnect : ConnectInfo where
  clientId := [0x67, 0x77]
  username := []
  password := [0x31]
  willTopic := [0x74]
  willMessage := [0x00]
  keepalive := 60
  willQos := 1
  willRetain := true
  cleanSession := true
  protocolVer := .v311

theorem sampleConnect_short : sampleConnect.Short :=
  ⟨by decide, by decide, by decide, by decide, by decide, by decide⟩

end FcomGateway.Mqtt
