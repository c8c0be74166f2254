import Mathlib.Data.UInt
import FcomGateway.JobParsing
import FcomGateway.Library.ByteMemory

/-! # The access data from the phone

`json_parser_message_ble_data` prints up to three strings into the adjacent fields of
`wifi_author`, each with the zero that ends it; `ble_config_wifi_task` copies two of the fields.
-/

namespace FcomGateway

open CJson ByteMemory

/-- The fields of `wifi_author_t`, in the order of the struct and of the parser. -/
inductive WifiField
  | mSsid
  | mPassword
  | mPairToken
  deriving DecidableEq, Repr

namespace WifiField

def offset : WifiField → Nat
  | mSsid => 0
  | mPassword => 32
  | mPairToken => 96

def size : WifiField → Nat
  | mSsid => 32
  | mPassword => 64
  | mPairToken => 33

def key : WifiField → String
  | mSsid => "name"
  | mPassword => "pass"
  | mPairToken => "pair"

/-- The longest string that Wi-Fi and the platform use. -/
def limit : WifiField → Nat
  | mSsid => 32
  | mPassword => 64
  | mPairToken => 32

end WifiField

def WIFI_AUTHOR_SIZE : Nat := 129

def givenText (message : List UInt8) (field : WifiField) : Option (List UInt8) :=
  (messageTree message).bind fun root =>
    valuestring (root.getObjectItemCaseSensitive (literal field.key))

/-- `sprintf` into a field of `wifi_author`; it does not ask for the size of the field. `none` is
a write behind the struct. -/
def printField (field : WifiField) (text : List UInt8) (author : Nat → UInt8) :
    Option (Nat → UInt8) :=
  if field.offset + text.length < WIFI_AUTHOR_SIZE then some (writeText author field.offset text)
  else none

def printGiven (message : List UInt8) (author : Nat → UInt8) (field : WifiField) :
    Option (Nat → UInt8) :=
  (givenText message field).elim (some author) fun text => printField field text author

/-- The addresses that `sprintf` writes for a field. -/
def printedAddresses (message : List UInt8) (field : WifiField) : List Nat :=
  (givenText message field).elim [] fun text =>
    (List.range (text.length + 1)).map fun k => field.offset + k

def jsonParserMessageBleData (message : List UInt8) (author : Nat → UInt8) :
    Option (Nat → UInt8) := do
  let author ← printGiven message author .mSsid
  let author ← printGiven message author .mPassword
  printGiven message author .mPairToken

def fieldBytes (author : Nat → UInt8) (field : WifiField) : List UInt8 :=
  window author field.offset field.size

structure WifiConfig where
  ssid : List UInt8
  password : List UInt8

def wifiConfig (author : Nat → UInt8) : WifiConfig where
  ssid := fieldBytes author .mSsid
  password := fieldBytes author .mPassword

/-! ## The law -/

/-- The given strings are in their fields, the other fields are as they were, the station gets the
given strings, and no string that is too long is printed over the end of its field. -/
structure ProvisioningLaw (message : List UInt8) (author next : Nat → UInt8) : Prop where
  given : ∀ field, ∀ text ∈ givenText message field, text.length ≤ field.limit →
    cString (fieldBytes next field) = text
  others : ∀ field, givenText message field = none →
    fieldBytes next field = fieldBytes author field
  ssid : ∀ text ∈ givenText message .mSsid, text.length ≤ WifiField.mSsid.limit →
    cString (wifiConfig next).ssid = text
  password : ∀ text ∈ givenText message .mPassword, text.length ≤ WifiField.mPassword.limit →
    cString (wifiConfig next).password = text
  inside : ∀ field, ∀ text ∈ givenText message field, field.limit < text.length →
    ∀ j ∈ printedAddresses message field, j < field.offset + field.size

def KeepsFields (message : List UInt8) (author : Nat → UInt8) : Prop :=
  ∃ next, jsonParserMessageBleData message author = some next ∧
    ProvisioningLaw message author next

/-- The strings have legal lengths, and where one fills its field the next field is given too, or
was empty. -/
structure ProvisioningSafe (message : List UInt8) (author : Nat → UInt8) : Prop where
  legal : ∀ field, ∀ text ∈ givenText message field, text.length ≤ field.limit
  name : ∀ text ∈ givenText message .mSsid, text.length = 32 →
    givenText message .mPassword = none → author WifiField.mPassword.offset = 0
  pass : ∀ text ∈ givenText message .mPassword, text.length = 64 →
    givenText message .mPairToken = none → author WifiField.mPairToken.offset = 0

/-! ## One string -/

theorem mem_printedAddresses {message : List UInt8} {field : WifiField} {j : Nat} :
    j ∈ printedAddresses message field ↔
      ∃ text ∈ givenText message field, field.offset ≤ j ∧ j ≤ field.offset + text.length := by
  rw [printedAddresses]
  cases givenText message field with
  | none => simp
  | some text =>
    simp only [Option.elim_some, List.mem_map, List.mem_range, Option.mem_def, Option.some.injEq,
      exists_eq_left']
    constructor
    · rintro ⟨k, hk, rfl⟩
      omega
    · rintro ⟨hLow, hHigh⟩
      exact ⟨j - field.offset, by omega, by omega⟩

theorem printGiven_frame {message : List UInt8} {author next : Nat → UInt8} {field : WifiField}
    (h : printGiven message author field = some next) {j : Nat}
    (hj : j ∉ printedAddresses message field) : next j = author j := by
  rw [printGiven] at h
  rw [mem_printedAddresses] at hj
  cases hText : givenText message field with
  | none =>
    rw [hText] at h
    cases h
    rfl
  | some text =>
    rw [hText, Option.elim_some, printField] at h
    split at h
    · cases h
      refine writeText_outside ?_
      by_contra hInside
      exact hj ⟨text, hText, by omega, by omega⟩
    · cases h

theorem givenText_nonzero {message : List UInt8} {field : WifiField} {text : List UInt8}
    (h : givenText message field = some text) : ∀ b ∈ text, b ≠ 0 := by
  obtain ⟨root, _, hText⟩ := Option.bind_eq_some_iff.mp h
  cases hItem : root.getObjectItemCaseSensitive (literal field.key) with
  | none =>
    rw [hItem] at hText
    cases hText
  | some item =>
    rw [hItem] at hText
    cases item with
    | string value =>
      cases hText
      exact fun _ => cString_nonzero
    | null | bool _ | number _ | array _ | object _ => cases hText

/-- The field after the parser has passed it: the given string, or what was there. -/
def printed (message : List UInt8) (author : Nat → UInt8) (field : WifiField) : Nat → UInt8 :=
  (givenText message field).elim author fun text => writeText author field.offset text

theorem printGiven_eq_some {message : List UInt8} {author : Nat → UInt8} {field : WifiField}
    (h : ∀ text ∈ givenText message field, field.offset + text.length < WIFI_AUTHOR_SIZE) :
    printGiven message author field = some (printed message author field) := by
  rw [printGiven, printed]
  cases hText : givenText message field with
  | none => rfl
  | some text =>
    rw [Option.elim_some, Option.elim_some, printField, if_pos (h text hText)]

theorem limit_lt (field : WifiField) : field.offset + field.limit < WIFI_AUTHOR_SIZE := by
  cases field <;> decide

theorem limit_le_size (field : WifiField) : field.limit ≤ field.size := by
  cases field <;> decide

/-- With legal lengths a field is printed over at most its own bytes and the first one behind. -/
theorem printed_outside {message : List UInt8} {author : Nat → UInt8} {field : WifiField} {j : Nat}
    (hLegal : ∀ text ∈ givenText message field, text.length ≤ field.limit)
    (hj : j < field.offset ∨ field.offset + field.limit < j) :
    printed message author field j = author j := by
  rw [printed]
  cases hText : givenText message field with
  | none => rfl
  | some text =>
    have hLength := hLegal text hText
    exact writeText_outside (by omega)

/-- The first byte behind a field survives unless a string fills the field. -/
theorem printed_behind {message : List UInt8} {field : WifiField} (author : Nat → UInt8)
    (hLegal : ∀ text ∈ givenText message field, text.length ≤ field.limit) :
    printed message author field (field.offset + field.limit) =
        author (field.offset + field.limit) ↔
      ∀ text ∈ givenText message field, text.length = field.limit →
        author (field.offset + field.limit) = 0 := by
  rw [printed]
  cases hText : givenText message field with
  | none => simp
  | some text =>
    have hLength := hLegal text hText
    simp only [Option.elim_some, Option.mem_def, Option.some.injEq, forall_eq']
    rcases Nat.lt_or_eq_of_le hLength with hShort | hFull
    · rw [writeText_outside (by omega)]
      exact iff_of_true rfl fun hFull => absurd hFull hShort.ne
    · rw [forall_prop_of_true hFull, ← hFull, writeText_end, eq_comm]

/-! ## Three strings -/

section Stages

variable (message : List UInt8) (author : Nat → UInt8)

def beforeField : WifiField → Nat → UInt8
  | .mSsid => author
  | .mPassword => printed message author .mSsid
  | .mPairToken => printed message (printed message author .mSsid) .mPassword

def afterAll : Nat → UInt8 := printed message (beforeField message author .mPairToken) .mPairToken

variable {message author}

def Legal (message : List UInt8) : Prop :=
  ∀ field, ∀ text ∈ givenText message field, text.length ≤ field.limit

theorem jsonParserMessageBleData_eq (hLegal : Legal message) :
    jsonParserMessageBleData message author = some (afterAll message author) := by
  have hPrint (field : WifiField) (before : Nat → UInt8) :
      printGiven message before field = some (printed message before field) :=
    printGiven_eq_some fun text hText =>
      (Nat.add_le_add_left (hLegal field text hText) _).trans_lt (limit_lt field)
  simp only [jsonParserMessageBleData, hPrint, Option.bind_eq_bind, Option.bind_some]
  rfl

/-- What is printed later leaves a field alone. -/
theorem afterAll_field (hLegal : Legal message) (field : WifiField) {j : Nat}
    (hj : j < field.offset + field.size) :
    afterAll message author j = printed message (beforeField message author field) field j := by
  cases field with
  | mSsid =>
    have hPassword : j < WifiField.mPassword.offset := hj
    have hPair : j < WifiField.mPairToken.offset := hPassword.trans (by decide)
    exact (printed_outside (hLegal _) (.inl hPair)).trans
      (printed_outside (hLegal _) (.inl hPassword))
  | mPassword => exact printed_outside (hLegal _) (.inl hj)
  | mPairToken => rfl

/-- What is printed earlier touches at most the first byte of a field. -/
theorem beforeField_field (hLegal : Legal message) (field : WifiField) {j : Nat}
    (hj : field.offset < j) : beforeField message author field j = author j := by
  cases field with
  | mSsid => rfl
  | mPassword => exact printed_outside (hLegal _) (.inr hj)
  | mPairToken =>
    rw [beforeField, printed_outside (hLegal _) (.inr hj),
      printed_outside (hLegal _) (.inr (lt_trans (by decide) hj))]

theorem fieldBytes_given (hLegal : Legal message) {field : WifiField} {text : List UInt8}
    (hText : givenText message field = some text) :
    cString (fieldBytes (afterAll message author) field) = text := by
  have hSize : text.length ≤ field.size := (hLegal field text hText).trans (limit_le_size field)
  refine takeWhile_window hSize (fun k hk => ?_) (fun hShort => ?_) (givenText_nonzero hText)
  · rw [afterAll_field hLegal field (by omega), printed, hText]
    exact writeText_text hk
  · rw [afterAll_field hLegal field (by omega), printed, hText]
    exact writeText_end

theorem fieldBytes_other (hLegal : Legal message) {field : WifiField}
    (hText : givenText message field = none) :
    fieldBytes (afterAll message author) field = fieldBytes author field ↔
      beforeField message author field field.offset = author field.offset := by
  have hAfter : ∀ k < field.size, afterAll message author (field.offset + k) =
      beforeField message author field (field.offset + k) := by
    intro k hk
    rw [afterAll_field hLegal field (by omega), printed, hText, Option.elim_none]
  rw [fieldBytes, fieldBytes, window_eq_iff]
  constructor
  · intro h
    have hFirst := h 0 (by cases field <;> decide)
    rwa [hAfter 0 (by cases field <;> decide), Nat.add_zero] at hFirst
  · intro hFirst k hk
    rw [hAfter k hk]
    cases k with
    | zero => exact hFirst
    | succ k => exact beforeField_field hLegal field (by omega)

theorem beforeField_password (hLegal : Legal message) :
    beforeField message author .mPassword WifiField.mPassword.offset =
        author WifiField.mPassword.offset ↔
      ∀ text ∈ givenText message .mSsid, text.length = 32 →
        author WifiField.mPassword.offset = 0 :=
  printed_behind author (hLegal .mSsid)

theorem beforeField_pairToken (hLegal : Legal message) :
    beforeField message author .mPairToken WifiField.mPairToken.offset =
        author WifiField.mPairToken.offset ↔
      ∀ text ∈ givenText message .mPassword, text.length = 64 →
        author WifiField.mPairToken.offset = 0 := by
  have hName : printed message author .mSsid WifiField.mPairToken.offset =
      author WifiField.mPairToken.offset := printed_outside (hLegal .mSsid) (.inr (by decide))
  have hPass := printed_behind (printed message author .mSsid) (hLegal .mPassword)
  rw [← hName]
  exact hPass

end Stages

theorem size_le_limit (field : WifiField) : field.size ≤ field.limit + 1 := by
  cases field <;> decide

theorem legal_of_law {message : List UInt8} {author next : Nat → UInt8}
    (hLaw : ProvisioningLaw message author next) : Legal message := by
  intro field text hText
  by_contra hLong
  have hEnd : field.offset + text.length ∈ printedAddresses message field :=
    mem_printedAddresses.mpr ⟨text, hText, Nat.le_add_right _ _, le_rfl⟩
  have hInside := hLaw.inside field text hText (by omega) _ hEnd
  have hSize := size_le_limit field
  omega

theorem provisioningLaw_afterAll {message : List UInt8} {author : Nat → UInt8}
    (hLegal : Legal message) : ProvisioningLaw message author (afterAll message author) ↔
      ∀ field, givenText message field = none →
        beforeField message author field field.offset = author field.offset := by
  constructor
  · intro hLaw field hText
    exact (fieldBytes_other hLegal hText).mp (hLaw.others field hText)
  · intro hFirst
    exact {
      given := fun field text hText _ => fieldBytes_given hLegal hText
      others := fun field hText => (fieldBytes_other hLegal hText).mpr (hFirst field hText)
      ssid := fun text hText _ => fieldBytes_given hLegal hText
      password := fun text hText _ => fieldBytes_given hLegal hText
      inside := fun field text hText hLong =>
        absurd (hLegal field text hText) (Nat.not_le.mpr hLong) }

/-- The given strings and nothing else end up in their fields if and only if their lengths are
legal and none of them fills its field in front of another one that is kept. -/
theorem keepsFields_iff (message : List UInt8) (author : Nat → UInt8) :
    KeepsFields message author ↔ ProvisioningSafe message author := by
  constructor
  · rintro ⟨next, hNext, hLaw⟩
    have hLegal := legal_of_law hLaw
    rw [jsonParserMessageBleData_eq hLegal] at hNext
    cases hNext
    have hFirst := (provisioningLaw_afterAll hLegal).mp hLaw
    exact {
      legal := hLegal
      name := fun text hText hFull hNone =>
        (beforeField_password hLegal).mp (hFirst .mPassword hNone) text hText hFull
      pass := fun text hText hFull hNone =>
        (beforeField_pairToken hLegal).mp (hFirst .mPairToken hNone) text hText hFull }
  · intro hSafe
    refine ⟨_, jsonParserMessageBleData_eq hSafe.legal,
      (provisioningLaw_afterAll hSafe.legal).mpr fun field hNone => ?_⟩
    cases field with
    | mSsid => rfl
    | mPassword =>
      exact (beforeField_password hSafe.legal).mpr fun text hText hFull =>
        hSafe.name text hText hFull hNone
    | mPairToken =>
      exact (beforeField_pairToken hSafe.legal).mpr fun text hText hFull =>
        hSafe.pass text hText hFull hNone

def longNameMessage : List UInt8 :=
  literal "\x7b\"name\":\"abcdefghijklmnopqrstuvwxyz012345\"\x7d"

/-- The name cuts off the password from before. -/
theorem long_name_drops_password : ¬ KeepsFields longNameMessage fun _ => 0x41 := by
  rintro ⟨next, hNext, hLaw⟩
  have hPrinted : (jsonParserMessageBleData longNameMessage fun _ => 0x41).all (fun next =>
      next 32 = 0) = true := by decide +kernel
  have hNone : givenText longNameMessage .mPassword = none := by decide +kernel
  have hKept := hLaw.others .mPassword hNone
  rw [fieldBytes, fieldBytes, window_eq_iff] at hKept
  have hFirst := hKept 0 (by decide)
  rw [hNext, Option.all_some, decide_eq_true_eq] at hPrinted
  rw [show WifiField.mPassword.offset + 0 = 32 from rfl, hPrinted] at hFirst
  revert hFirst
  decide

end FcomGateway
