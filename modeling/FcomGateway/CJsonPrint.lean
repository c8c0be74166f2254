import FcomGateway.CJson
import FcomGateway.Library.HexText

/-! # Printing of cJSON trees

`cJSON_PrintUnformatted`. A string is gone through twice: the first pass counts the characters
that the escapes add, the second one writes them. The number of a tree is kept as the text that
`strtod` has read, and `print_number` is over what the C library says of `double`; the printers of
trees are over any function in its place.
-/

namespace FcomGateway.CJson

/-! ## Strings -/

/-- What an escape adds to the character, in the first pass of `print_string_ptr`. -/
def escapeCost (b : UInt8) : Nat :=
  if b = 0x22 ∨ b = 0x5C ∨ b = 0x08 ∨ b = 0x0C ∨ b = 0x0A ∨ b = 0x0D ∨ b = 0x09 then 1
  else if b < 32 then 5
  else 0

def escapeCharacters (input : List UInt8) : Nat :=
  input.foldr (fun b count => escapeCost b + count) 0

/-- What the second pass writes for a character. -/
def escapeByte (b : UInt8) : List UInt8 :=
  if b > 31 ∧ b ≠ 0x22 ∧ b ≠ 0x5C then [b]
  else if b = 0x5C then [0x5C, 0x5C]
  else if b = 0x22 then [0x5C, 0x22]
  else if b = 0x08 then [0x5C, 0x62]
  else if b = 0x0C then [0x5C, 0x66]
  else if b = 0x0A then [0x5C, 0x6E]
  else if b = 0x0D then [0x5C, 0x72]
  else if b = 0x09 then [0x5C, 0x74]
  else [0x5C, 0x75, 0x30, 0x30] ++ HexText.byteDigits b

def printStringPtr (string : List UInt8) : List UInt8 :=
  let input := cString string
  if escapeCharacters input = 0 then 0x22 :: (input ++ [0x22])
  else 0x22 :: (input.flatMap escapeByte ++ [0x22])

theorem escapeByte_length (b : UInt8) :
    (escapeByte b).length = 1 + escapeCost b ∧ escapeCost b ≤ 5 := by
  revert b
  exact HexText.forall_byte (by decide +kernel)

theorem escapeCharacters_cons (b : UInt8) (rest : List UInt8) :
    escapeCharacters (b :: rest) = escapeCost b + escapeCharacters rest := rfl

theorem escaped_length (input : List UInt8) :
    (input.flatMap escapeByte).length = input.length + escapeCharacters input := by
  induction input with
  | nil => rfl
  | cons b rest ih =>
    rw [List.flatMap_cons, List.length_append, (escapeByte_length b).1, ih,
      escapeCharacters_cons, List.length_cons]
    omega

theorem escapeCharacters_le (input : List UInt8) : escapeCharacters input ≤ 5 * input.length := by
  induction input with
  | nil => exact le_rfl
  | cons b rest ih =>
    have hCost := (escapeByte_length b).2
    rw [escapeCharacters_cons, List.length_cons]
    omega

/-- The second pass fills the room that the first one has counted. -/
theorem printStringPtr_length (string : List UInt8) : (printStringPtr string).length =
    (cString string).length + escapeCharacters (cString string) + 2 := by
  rw [printStringPtr]
  split
  · rename_i hNone
    rw [hNone, List.length_cons, List.length_append, List.length_singleton]
  · rw [List.length_cons, List.length_append, List.length_singleton, escaped_length]

theorem printStringPtr_length_le (string : List UInt8) :
    (printStringPtr string).length ≤ 6 * string.length + 2 := by
  have hShown := cString_length_le string
  have hEscapes := escapeCharacters_le (cString string)
  rw [printStringPtr_length]
  omega

/-- A character that is shown as it is. -/
def isPlain (b : UInt8) : Bool := escapeCost b = 0 ∧ b ≠ 0

theorem escapeCharacters_plain {string : List UInt8} (h : string.all isPlain = true) :
    escapeCharacters string = 0 := by
  induction string with
  | nil => rfl
  | cons b rest ih =>
    rw [List.all_cons, Bool.and_eq_true] at h
    rw [escapeCharacters_cons, ih h.2, (of_decide_eq_true h.1).1]

theorem plain_nonzero {string : List UInt8} (h : string.all isPlain = true) :
    ∀ b ∈ string, b ≠ 0 :=
  fun b hb => (of_decide_eq_true (List.all_eq_true.mp h b hb)).2

/-- A text without quotes, backslashes and control characters gets its quotes and no more. -/
theorem printStringPtr_plain {string : List UInt8} (h : string.all isPlain = true) :
    (printStringPtr string).length = string.length + 2 := by
  rw [printStringPtr_length, cString_eq_self (plain_nonzero h), escapeCharacters_plain h,
    Nat.add_zero]

/-! ## Numbers -/

/-- `double` as `print_number` uses it. `sprintf n` is the conversion `%1.<n>g` and `sscanf` is
`%lg`, without a value where it does not return 1. -/
structure Doubles (ν : Type) where
  strtod : List UInt8 → ν
  sprintf : Nat → ν → List UInt8
  sscanf : List UInt8 → Option ν
  isnan : ν → Bool
  isinf : ν → Bool
  fabs : ν → ν
  sub : ν → ν → ν
  mul : ν → ν → ν
  gt : ν → ν → Bool
  le : ν → ν → Bool
  dblEpsilon : ν

namespace Doubles

variable {ν : Type} (libc : Doubles ν)

def compareDouble (a b : ν) : Bool :=
  let maxVal := if libc.gt (libc.fabs a) (libc.fabs b) then libc.fabs a else libc.fabs b
  libc.le (libc.fabs (libc.sub a b)) (libc.mul maxVal libc.dblEpsilon)

/-- What stands in `number_buffer`. The point of the C locale is the one of JSON. -/
def numberBuffer (d : ν) : List UInt8 :=
  if libc.isnan d ∨ libc.isinf d then literal "null"
  else if (libc.sscanf (libc.sprintf 15 d)).any (libc.compareDouble · d) then libc.sprintf 15 d
  else libc.sprintf 17 d

/-- A text of more than 25 bytes would be refused; none is (`numberBuffer_fits`). -/
def printNumber (text : List UInt8) : List UInt8 := libc.numberBuffer (libc.strtod text)

def finite (d : ν) : Bool := !libc.isnan d && !libc.isinf d

end Doubles

/-! ## Values -/

section Values

variable (printNumber : List UInt8 → List UInt8)

mutual

def printValue : CJson → List UInt8
  | .null => literal "null"
  | .bool value => if value then literal "true" else literal "false"
  | .number text => printNumber text
  | .string value => printStringPtr value
  | .array items => 0x5B :: (printElements items ++ [0x5D])
  | .object members => 0x7B :: (printMembers members ++ [0x7D])

def printElements : List CJson → List UInt8
  | [] => []
  | item :: rest =>
    printValue item ++ (if rest.isEmpty then [] else [0x2C]) ++ printElements rest

def printMembers : List (List UInt8 × CJson) → List UInt8
  | [] => []
  | member :: rest =>
    printStringPtr member.1 ++ 0x3A :: printValue member.2 ++
      (if rest.isEmpty then [] else [0x2C]) ++ printMembers rest

end

def printUnformatted (root : CJson) : List UInt8 := printValue printNumber root

/-! ## Room

What a tree is made of tells how long its text is at most.
-/

def Within (n : Nat) (item : CJson) : Prop := (printValue printNumber item).length ≤ n

def ElementsWithin (n : Nat) (items : List CJson) : Prop :=
  (printElements printNumber items).length ≤ n

def MembersWithin (n : Nat) (members : List (List UInt8 × CJson)) : Prop :=
  (printMembers printNumber members).length ≤ n

variable {printNumber} {k n : Nat} {value name : List UInt8} {item : CJson}

theorem Within.mono (h : Within printNumber k item) (hRoom : k ≤ n) : Within printNumber n item :=
  Nat.le_trans h hRoom

/-- Every character may be escaped with five others. -/
theorem within_string (h : value.length ≤ k) : Within printNumber (6 * k + 2) (.string value) := by
  have hPrinted := printStringPtr_length_le value
  rw [Within, printValue]
  omega

theorem within_plain (hPlain : value.all isPlain = true) (h : value.length ≤ k) :
    Within printNumber (k + 2) (.string value) := by
  rw [Within, printValue, printStringPtr_plain hPlain]
  omega

theorem within_bool (b : Bool) : Within printNumber 5 (.bool b) := by
  rw [Within, printValue]
  cases b <;> decide +kernel

theorem separator_length {α : Type} (rest : List α) :
    (if rest.isEmpty then [] else [0x2C] : List UInt8).length ≤ 1 := by
  split <;> decide

theorem elementsWithin_nil : ElementsWithin printNumber 0 [] := le_rfl

theorem elementsWithin_cons {rest : List CJson} (hItem : Within printNumber k item)
    (hRest : ElementsWithin printNumber n rest) :
    ElementsWithin printNumber (k + n + 1) (item :: rest) := by
  have hSeparator := separator_length rest
  rw [Within] at hItem
  rw [ElementsWithin] at hRest ⊢
  rw [printElements, List.length_append, List.length_append]
  omega

theorem within_array {items : List CJson} (h : ElementsWithin printNumber n items) :
    Within printNumber (n + 2) (.array items) := by
  rw [ElementsWithin] at h
  rw [Within, printValue, List.length_cons, List.length_append, List.length_singleton]
  omega

theorem membersWithin_nil : MembersWithin printNumber 0 [] := le_rfl

/-- A plain name takes its quotes, a colon and the comma behind the value. -/
theorem membersWithin_cons {rest : List (List UInt8 × CJson)} (hName : name.all isPlain = true)
    (hItem : Within printNumber k item) (hRest : MembersWithin printNumber n rest) :
    MembersWithin printNumber (name.length + k + n + 4) ((name, item) :: rest) := by
  have hSeparator := separator_length rest
  rw [Within] at hItem
  rw [MembersWithin] at hRest ⊢
  rw [printMembers, List.length_append, List.length_append, List.length_append, List.length_cons,
    printStringPtr_plain hName]
  dsimp only
  omega

theorem within_object {members : List (List UInt8 × CJson)}
    (h : MembersWithin printNumber n members) :
    Within printNumber (n + 2) (.object members) := by
  rw [MembersWithin] at h
  rw [Within, printValue, List.length_cons, List.length_append, List.length_singleton]
  omega

end Values

end FcomGateway.CJson
