import Mathlib.Data.List.Basic
import Mathlib.Data.List.TakeWhile

/-! # cJSON

The parser of `cJSON.c` and the accessors of its trees. A `parse_buffer` is the list of the bytes
from its offset to its length; a function that moves the offset gives back what is left.
-/

namespace FcomGateway

def literal (s : String) : List UInt8 := s.toList.map fun c => UInt8.ofNat c.toNat

/-- What a `char *` to these bytes shows. -/
def cString (s : List UInt8) : List UInt8 := s.takeWhile fun b => decide (b ≠ 0)

theorem cString_eq_self {s : List UInt8} (h : ∀ b ∈ s, b ≠ 0) : cString s = s :=
  List.takeWhile_eq_self_iff.mpr fun b hb => decide_eq_true (h b hb)

theorem cString_nonzero {s : List UInt8} {b : UInt8} (hb : b ∈ cString s) : b ≠ 0 :=
  of_decide_eq_true (List.mem_takeWhile_imp (p := fun b => decide (b ≠ 0)) hb)

theorem cString_length_le (s : List UInt8) : (cString s).length ≤ s.length :=
  (List.takeWhile_sublist _).length_le

/-- A node with what its type tells to read; a number keeps the text that `strtod` has read. -/
inductive CJson
  | null
  | bool (value : Bool)
  | number (text : List UInt8)
  | string (value : List UInt8)
  | array (items : List CJson)
  | object (members : List (List UInt8 × CJson))

namespace CJson

def CJSON_NESTING_LIMIT : Nat := 1000

def isDigit (b : UInt8) : Bool := 0x30 ≤ b ∧ b ≤ 0x39

/-! ## Numbers -/

def isNumberByte (b : UInt8) : Bool :=
  isDigit b ∨ b = 0x2B ∨ b = 0x2D ∨ b = 0x65 ∨ b = 0x45 ∨ b = 0x2E

def signLength : List UInt8 → Nat
  | c :: _ => if c = 0x2B ∨ c = 0x2D then 1 else 0
  | [] => 0

def digitsLength (s : List UInt8) : Nat := (s.takeWhile isDigit).length

def exponentLength : List UInt8 → Nat
  | c :: rest =>
    if c = 0x65 ∨ c = 0x45 then
      let sign := signLength rest
      let digits := digitsLength (rest.drop sign)
      if digits = 0 then 0 else 1 + sign + digits
    else 0
  | [] => 0

/-- How many bytes `strtod` reads from a text of such bytes; 0 when there is no number. -/
def strtodLength (s : List UInt8) : Nat :=
  let sign := signLength s
  let whole := digitsLength (s.drop sign)
  let afterWhole := s.drop (sign + whole)
  let fraction := if afterWhole.head? = some 0x2E then digitsLength (afterWhole.drop 1) else 0
  if whole + fraction = 0 then 0
  else
    let point := if afterWhole.head? = some 0x2E then 1 else 0
    let mantissa := sign + whole + point + fraction
    mantissa + exponentLength (s.drop mantissa)

/-- `number_c_string[64]` takes 63 bytes. -/
def numberText (s : List UInt8) : List UInt8 := (s.take 63).takeWhile isNumberByte

def parseNumber (s : List UInt8) : Option (CJson × List UInt8) :=
  let length := strtodLength (numberText s)
  if length = 0 then none else some (.number ((numberText s).take length), s.drop length)

/-! ## Strings -/

/-- The first pass of `parse_string`, behind the opening quote: the bytes up to the closing quote
and those behind it. -/
def stringBody : List UInt8 → Option (List UInt8 × List UInt8)
  | [] => none
  | c :: rest =>
    if c = 0x22 then some ([], rest)
    else if c = 0x5C then
      match rest with
      | [] => none
      | e :: rest => (stringBody rest).map fun (body, rest) => (c :: e :: body, rest)
    else (stringBody rest).map fun (body, rest) => (c :: body, rest)

def hexDigit (b : UInt8) : Option Nat :=
  if isDigit b then some (b.toNat - 0x30)
  else if 0x41 ≤ b ∧ b ≤ 0x46 then some (10 + b.toNat - 0x41)
  else if 0x61 ≤ b ∧ b ≤ 0x66 then some (10 + b.toNat - 0x61)
  else none

/-- `parse_hex4` gives 0 for a byte that is no digit. -/
def parseHex4 (s : List UInt8) : Nat :=
  (((s.take 4).mapM hexDigit).map fun digits => digits.foldl (fun h d => h * 16 + d) 0).getD 0

def utf8 (codepoint : Nat) : List UInt8 :=
  let continuation (shift : Nat) := UInt8.ofNat (0x80 + (codepoint >>> shift) % 64)
  if codepoint < 0x80 then [UInt8.ofNat codepoint]
  else if codepoint < 0x800 then [UInt8.ofNat (0xC0 + (codepoint >>> 6)), continuation 0]
  else if codepoint < 0x10000 then
    [UInt8.ofNat (0xE0 + (codepoint >>> 12)), continuation 6, continuation 0]
  else
    [UInt8.ofNat (0xF0 + (codepoint >>> 18)), continuation 12, continuation 6, continuation 0]

/-- `utf16_literal_to_utf8` on the bytes from the backslash to the closing quote: the output and
the length of the sequence. -/
def utf16LiteralToUtf8 (s : List UInt8) : Option (List UInt8 × Nat) :=
  if s.length < 6 then none
  else
    let first := parseHex4 (s.drop 2)
    if 0xDC00 ≤ first ∧ first ≤ 0xDFFF then none
    else if 0xD800 ≤ first ∧ first ≤ 0xDBFF then
      if s.length < 12 ∨ (s.drop 6).take 2 ≠ [0x5C, 0x75] then none
      else
        let second := parseHex4 (s.drop 8)
        if second < 0xDC00 ∨ 0xDFFF < second then none
        else some (utf8 (0x10000 + (first % 0x400) * 0x400 + second % 0x400), 12)
    else some (utf8 first, 6)

/-- The second pass of `parse_string`; every round uses up at least one byte. A backslash that is
left over at the end is read together with the closing quote. -/
def unescape : Nat → List UInt8 → Option (List UInt8)
  | _, [] => some []
  | 0, _ :: _ => none
  | fuel + 1, c :: rest =>
    if c ≠ 0x5C then (unescape fuel rest).map (c :: ·)
    else
      match rest with
      | [] => some [0x22]
      | e :: after =>
        if e = 0x62 then (unescape fuel after).map (0x08 :: ·)
        else if e = 0x66 then (unescape fuel after).map (0x0C :: ·)
        else if e = 0x6E then (unescape fuel after).map (0x0A :: ·)
        else if e = 0x72 then (unescape fuel after).map (0x0D :: ·)
        else if e = 0x74 then (unescape fuel after).map (0x09 :: ·)
        else if e = 0x22 ∨ e = 0x5C ∨ e = 0x2F then (unescape fuel after).map (e :: ·)
        else if e = 0x75 then
          (utf16LiteralToUtf8 (c :: rest)).bind fun sequence =>
            (unescape fuel ((c :: rest).drop sequence.2)).map (sequence.1 ++ ·)
        else none

def parseString : List UInt8 → Option (List UInt8 × List UInt8)
  | [] => none
  | c :: rest =>
    if c = 0x22 then
      (stringBody rest).bind fun (body, rest) =>
        (unescape body.length body).map fun value => (value, rest)
    else none

/-! ## Values -/

/-- `buffer_skip_whitespace`, which steps back to the last byte when only blanks are left. -/
def skipWhitespace : List UInt8 → List UInt8
  | [] => []
  | [c] => [c]
  | c :: d :: rest => if c ≤ 0x20 then skipWhitespace (d :: rest) else c :: d :: rest

section Bracket

variable {α : Type} (close : UInt8) (parseItems : List UInt8 → Option (List α × List UInt8))

/-- `parse_array` and `parse_object` behind the opening bracket; `parseItems` is their loop. -/
def parseBracket (s : List UInt8) : Option (List α × List UInt8) :=
  match skipWhitespace s with
  | [] => none
  | c :: rest => if c = close then some ([], rest) else parseItems (c :: rest)

def parseNext (item : α) (s : List UInt8) : Option (List α × List UInt8) :=
  match skipWhitespace s with
  | [] => none
  | c :: rest =>
    if c = 0x2C then
      (parseItems (skipWhitespace rest)).map fun (items, rest) => (item :: items, rest)
    else if c = close then some ([item], rest)
    else none

end Bracket

def parseArray (parseElements : List UInt8 → Option (List CJson × List UInt8)) (depth : Nat)
    (s : List UInt8) : Option (CJson × List UInt8) :=
  if CJSON_NESTING_LIMIT ≤ depth then none
  else (parseBracket 0x5D parseElements s).map (Prod.map .array id)

def parseObject (parseMembers : List UInt8 → Option (List (List UInt8 × CJson) × List UInt8))
    (depth : Nat) (s : List UInt8) : Option (CJson × List UInt8) :=
  if CJSON_NESTING_LIMIT ≤ depth then none
  else (parseBracket 0x7D parseMembers s).map (Prod.map .object id)

mutual

/-- The first argument bounds the number of calls, the second one is the depth of the buffer. -/
def parseValue : Nat → Nat → List UInt8 → Option (CJson × List UInt8)
  | 0, _, _ => none
  | fuel + 1, depth, s =>
    if literal "null" <+: s then some (.null, s.drop 4)
    else if literal "false" <+: s then some (.bool false, s.drop 5)
    else if literal "true" <+: s then some (.bool true, s.drop 4)
    else
      match s with
      | [] => none
      | c :: rest =>
        if c = 0x22 then (parseString (c :: rest)).map fun (value, rest) => (.string value, rest)
        else if c = 0x2D ∨ isDigit c = true then parseNumber (c :: rest)
        else if c = 0x5B then parseArray (parseElements fuel (depth + 1)) depth rest
        else if c = 0x7B then parseObject (parseMembers fuel (depth + 1)) depth rest
        else none

def parseElements : Nat → Nat → List UInt8 → Option (List CJson × List UInt8)
  | 0, _, _ => none
  | fuel + 1, depth, s =>
    (parseValue fuel depth s).bind fun (item, rest) =>
      parseNext 0x5D (parseElements fuel depth) item rest

def parseMembers : Nat → Nat → List UInt8 → Option (List (List UInt8 × CJson) × List UInt8)
  | 0, _, _ => none
  | fuel + 1, depth, s =>
    (parseString s).bind fun (name, rest) =>
      match skipWhitespace rest with
      | [] => none
      | c :: rest =>
        if c = 0x3A then
          (parseValue fuel depth (skipWhitespace rest)).bind fun (item, rest) =>
            parseNext 0x7D (parseMembers fuel depth) (name, item) rest
        else none

end

def skipUtf8Bom (s : List UInt8) : List UInt8 :=
  if 4 < s.length ∧ s.take 3 = [0xEF, 0xBB, 0xBF] then s.drop 3 else s

/-- A bound that is always enough, see `parseValue_fuel`. -/
def enough (s : List UInt8) : Nat := 2 * s.length + 1

/-- `cJSON_ParseWithLength`, which does not look behind the first value. -/
def parseWithLength (s : List UInt8) : Option CJson :=
  let start := skipWhitespace (skipUtf8Bom s)
  (parseValue (enough start) 0 start).map Prod.fst

/-! ## Accessors -/

/-- The list that `child` begins, with the names. -/
def children : CJson → List (Option (List UInt8) × CJson)
  | .array items => items.map fun item => (none, item)
  | .object members => members.map fun (name, item) => (some name, item)
  | _ => []

def tolower (b : UInt8) : UInt8 := if 0x41 ≤ b ∧ b ≤ 0x5A then b + 0x20 else b

def getObjectItem (object : CJson) (name : List UInt8) : Option CJson :=
  (object.children.find? fun (child, _) =>
    child.any fun string => (cString string).map tolower = name.map tolower).map Prod.snd

/-- `cJSON_GetObjectItemCaseSensitive`; the search ends at a child without a name. -/
def getObjectItemCaseSensitive (object : CJson) (name : List UInt8) : Option CJson :=
  (object.children.find? fun (child, _) =>
    child.all fun string => cString string = name).bind fun (child, item) =>
      if child.isSome then some item else none

end CJson

end FcomGateway
