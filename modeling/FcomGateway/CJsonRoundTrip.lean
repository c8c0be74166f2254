import FcomGateway.CJsonPrint
import FcomGateway.ParsePrefix

/-! # Printed texts are read back

`cJSON_ParseWithLength` reads what `cJSON_PrintUnformatted` has written. A string comes back up to
its first zero byte, which is all that the printer sees of it, and a number as `print_number` has
put it. The printer has no limit for nested values, the parser has: a text that is nested deeper
is refused.
-/

namespace FcomGateway.CJson

open HexText

/-! ## Strings -/

theorem escapeByte_cases (b : UInt8) :
    (escapeByte b = [b] ∧ b ≠ 0x22 ∧ b ≠ 0x5C) ∨
      (∃ e, escapeByte b = [0x5C, e] ∧
        ∀ fuel after, unescape (fuel + 1) (0x5C :: e :: after) =
          (unescape fuel after).map (b :: ·)) ∨
      (escapeByte b = [0x5C, 0x75, 0x30, 0x30] ++ byteDigits b ∧ b < 0x20) := by
  unfold escapeByte
  split
  · rename_i h
    exact .inl ⟨rfl, h.2.1, h.2.2⟩
  rename_i hEscaped
  split
  · rename_i h
    exact .inr (.inl ⟨0x5C, rfl, fun _ _ => by rw [h]; rfl⟩)
  split
  · rename_i h
    exact .inr (.inl ⟨0x22, rfl, fun _ _ => by rw [h]; rfl⟩)
  split
  · rename_i h
    exact .inr (.inl ⟨0x62, rfl, fun _ _ => by rw [h]; rfl⟩)
  split
  · rename_i h
    exact .inr (.inl ⟨0x66, rfl, fun _ _ => by rw [h]; rfl⟩)
  split
  · rename_i h
    exact .inr (.inl ⟨0x6E, rfl, fun _ _ => by rw [h]; rfl⟩)
  split
  · rename_i h
    exact .inr (.inl ⟨0x72, rfl, fun _ _ => by rw [h]; rfl⟩)
  split
  · rename_i h
    exact .inr (.inl ⟨0x74, rfl, fun _ _ => by rw [h]; rfl⟩)
  · rename_i hBackslash hQuote _ _ _ _ _
    have hBelow : ∀ b : UInt8, ¬ b > 31 → b < 0x20 := forall_byte (by decide +kernel)
    exact .inr (.inr ⟨rfl, hBelow b fun h => hEscaped ⟨h, hQuote, hBackslash⟩⟩)

/-- Bytes that are neither quotes nor backslashes are passed over. -/
theorem stringBody_append_plain {text : List UInt8} (h : ∀ c ∈ text, c ≠ 0x22 ∧ c ≠ 0x5C)
    (rest : List UInt8) :
    stringBody (text ++ rest) = (stringBody rest).map (Prod.map (text ++ ·) id) := by
  induction text with
  | nil => exact Option.map_id_apply.symm
  | cons c text ih =>
    obtain ⟨hc, hText⟩ := List.forall_mem_cons.mp h
    rw [List.cons_append, stringBody_plain hc.1 hc.2, ih hText, Option.map_map]
    rfl

theorem byteDigits_plain (b : UInt8) :
    ∀ c ∈ [0x30, 0x30] ++ byteDigits b, c ≠ 0x22 ∧ c ≠ 0x5C := by
  have hDigits : ∀ b : UInt8, ([0x30, 0x30] ++ byteDigits b).all
      (fun c => c ≠ 0x22 ∧ c ≠ 0x5C) = true := forall_byte (by decide +kernel)
  exact fun c hc => of_decide_eq_true (List.all_eq_true.mp (hDigits b) c hc)

theorem stringBody_escapeByte (b : UInt8) (rest : List UInt8) :
    stringBody (escapeByte b ++ rest) =
      (stringBody rest).map (Prod.map (escapeByte b ++ ·) id) := by
  obtain ⟨hText, hQuote, hBackslash⟩ | ⟨e, hText, -⟩ | ⟨hText, -⟩ := escapeByte_cases b
  · rw [hText]
    exact stringBody_plain hQuote hBackslash rest
  · rw [hText]
    exact stringBody_escape e rest
  · rw [hText]
    refine (stringBody_escape 0x75 ([0x30, 0x30] ++ byteDigits b ++ rest)).trans ?_
    rw [stringBody_append_plain (byteDigits_plain b), Option.map_map]
    rfl

theorem stringBody_escaped (input rest : List UInt8) :
    stringBody (input.flatMap escapeByte ++ 0x22 :: rest) =
      some (input.flatMap escapeByte, rest) := by
  induction input with
  | nil => exact stringBody_quote rest
  | cons b input ih =>
    rw [List.flatMap_cons, List.append_assoc, stringBody_escapeByte, ih]
    rfl

theorem parseHex4_digits (b : UInt8) (rest : List UInt8) :
    parseHex4 ([0x30, 0x30] ++ byteDigits b ++ rest) = b.toNat := by
  have hDigits : ∀ b : UInt8, parseHex4 ([0x30, 0x30] ++ byteDigits b) = b.toNat :=
    forall_byte (by decide +kernel)
  exact hDigits b

/-- The only characters that are written with four digits are below the blank. -/
theorem utf16LiteralToUtf8_control {b : UInt8} (h : b < 0x20) (rest : List UInt8) :
    utf16LiteralToUtf8 ([0x5C, 0x75, 0x30, 0x30] ++ byteDigits b ++ rest) = some ([b], 6) := by
  have hLength : ([0x5C, 0x75, 0x30, 0x30] ++ byteDigits b ++ rest).length = 6 + rest.length := by
    rw [List.length_append]
    rfl
  have hFirst : parseHex4 (([0x5C, 0x75, 0x30, 0x30] ++ byteDigits b ++ rest).drop 2) = b.toNat :=
    parseHex4_digits b rest
  have hSmall : b.toNat < 32 := UInt8.lt_iff_toNat_lt.mp h
  rw [utf16LiteralToUtf8, hLength, if_neg (by omega), hFirst, if_neg (by omega),
    if_neg (by omega), utf8, if_pos (by omega), UInt8.ofNat_toNat]

theorem unescape_literal {fuel length : Nat} {s output : List UInt8}
    (h : utf16LiteralToUtf8 (0x5C :: 0x75 :: s) = some (output, length)) :
    unescape (fuel + 1) (0x5C :: 0x75 :: s) =
      (unescape fuel ((0x5C :: 0x75 :: s).drop length)).map (output ++ ·) := by
  rw [unescape, if_neg (by decide), if_neg (by decide), if_neg (by decide), if_neg (by decide),
    if_neg (by decide), if_neg (by decide), if_neg (by decide), if_pos rfl, h]
  rfl

theorem unescape_escapeByte (b : UInt8) {fuel : Nat} {rest : List UInt8}
    (hFuel : (escapeByte b ++ rest).length ≤ fuel) :
    unescape fuel (escapeByte b ++ rest) = (unescape rest.length rest).map (b :: ·) := by
  rw [List.length_append] at hFuel
  cases fuel with
  | zero =>
    have hSome := (escapeByte_length b).1
    omega
  | succ fuel =>
    have hLess := (escapeByte_length b).1
    rw [← unescape_fuel (by omega : rest.length ≤ fuel)]
    obtain ⟨hText, -, hBackslash⟩ | ⟨e, hText, hEscape⟩ | ⟨hText, hControl⟩ := escapeByte_cases b
    · rw [hText, List.singleton_append]
      exact if_pos hBackslash
    · rw [hText]
      exact hEscape fuel rest
    · rw [hText]
      exact unescape_literal (utf16LiteralToUtf8_control hControl rest)

theorem unescape_escaped {fuel : Nat} (input : List UInt8)
    (hFuel : (input.flatMap escapeByte).length ≤ fuel) :
    unescape fuel (input.flatMap escapeByte) = some input := by
  induction input generalizing fuel with
  | nil => cases fuel <;> rfl
  | cons b input ih =>
    rw [List.flatMap_cons] at hFuel ⊢
    rw [unescape_escapeByte b hFuel, ih le_rfl]
    rfl

theorem escaped_plain {input : List UInt8} (h : escapeCharacters input = 0) :
    input.flatMap escapeByte = input := by
  have hByte : ∀ b : UInt8, escapeCost b = 0 → escapeByte b = [b] :=
    forall_byte (by decide +kernel)
  induction input with
  | nil => rfl
  | cons b input ih =>
    rw [escapeCharacters_cons] at h
    rw [List.flatMap_cons, hByte b (by omega), ih (by omega)]
    rfl

/-- The shorter way gives what the loop over the characters would. -/
theorem printStringPtr_eq (value : List UInt8) :
    printStringPtr value = 0x22 :: ((cString value).flatMap escapeByte ++ [0x22]) := by
  rw [printStringPtr]
  split
  · rename_i hNone
    rw [escaped_plain hNone]
  · rfl

theorem parseString_print (value rest : List UInt8) :
    parseString (printStringPtr value ++ rest) = some (cString value, rest) := by
  refine parseString_eq_some.mpr ⟨(cString value).flatMap escapeByte ++ 0x22 :: rest,
    (cString value).flatMap escapeByte, ?_, stringBody_escaped _ rest,
    unescape_escaped _ le_rfl⟩
  rw [printStringPtr_eq, List.cons_append, List.append_assoc]
  rfl

/-! ## Numbers -/

/-- What `%1.15g` and `%1.17g` give: a number that `strtod` reads to its end. -/
structure NumberText (text : List UInt8) : Prop where
  head : ∃ c rest, text = c :: rest ∧ (c = 0x2D ∨ isDigit c = true)
  bytes : ∀ b ∈ text, isNumberByte b = true
  whole : strtodLength text = text.length
  fits : text.length ≤ 63

instance : (text : List UInt8) → Decidable (NumberText text)
  | [] => isFalse fun h => by
    obtain ⟨_, _, hText, -⟩ := h.head
    cases hText
  | c :: rest =>
    decidable_of_iff ((c = 0x2D ∨ isDigit c = true) ∧ (c :: rest).all isNumberByte = true ∧
      strtodLength (c :: rest) = (c :: rest).length ∧ (c :: rest).length ≤ 63) <| by
    constructor
    · rintro ⟨hc, hBytes, hWhole, hFits⟩
      exact ⟨⟨c, rest, rfl, hc⟩, List.all_eq_true.mp hBytes, hWhole, hFits⟩
    · rintro ⟨⟨_, _, hText, hc⟩, hBytes, hWhole, hFits⟩
      obtain ⟨rfl, -⟩ := List.cons.inj hText
      exact ⟨hc, List.all_eq_true.mpr hBytes, hWhole, hFits⟩

/-- `print_number` writes `null` for the values that JSON does not have. -/
def Prints (printNumber : List UInt8 → List UInt8) : Prop :=
  ∀ text, printNumber text = literal "null" ∨ NumberText (printNumber text)

/-- The byte behind a value; another one would be taken for a part of the number before it. -/
def Ends (rest : List UInt8) : Prop := ∀ b ∈ rest.head?, isNumberByte b = false

theorem numberText_self {text rest : List UInt8} (h : NumberText text) (hEnd : Ends rest) :
    numberText (text ++ rest) = text := by
  have hBehind : (rest.take (63 - text.length)).takeWhile isNumberByte = [] := by
    cases rest with
    | nil => rw [List.take_nil, List.takeWhile_nil]
    | cons b rest =>
      cases 63 - text.length with
      | zero => rfl
      | succ n =>
        rw [List.take_succ_cons, List.takeWhile_cons_of_neg]
        rw [hEnd b rfl]
        decide
  rw [numberText, List.take_append, List.take_of_length_le h.fits,
    List.takeWhile_append_of_pos h.bytes, hBehind, List.append_nil]

theorem parseNumber_print {text rest : List UInt8} (h : NumberText text) (hEnd : Ends rest) :
    parseNumber (text ++ rest) = some (.number text, rest) := by
  obtain ⟨c, tail, hText, -⟩ := h.head
  rw [parseNumber_eq_some, numberText_self h hEnd, h.whole, List.take_length, List.drop_left]
  refine ⟨?_, rfl, rfl⟩
  rw [hText]
  exact Nat.succ_ne_zero _

section Doubles

variable {ν : Type} {libc : Doubles ν}

/-- What the C standard promises of the conversions. Fifteen digits survive the way through a
`double` that has its full precision, and `compare_double` asks for the very value where it has
not; seventeen digits always tell a `double` from the others. -/
structure Doubles.Documented (libc : Doubles ν) : Prop where
  text : ∀ n d, n = 15 ∨ n = 17 → libc.finite d = true →
    NumberText (libc.sprintf n d) ∧ (libc.sprintf n d).length ≤ 25
  scan : ∀ text, NumberText text → libc.sscanf text = some (libc.strtod text)
  fifteen : ∀ d, libc.finite d = true → libc.finite (libc.strtod (libc.sprintf 15 d)) = true →
    libc.compareDouble (libc.strtod (libc.sprintf 15 d)) d = true →
      libc.sprintf 15 (libc.strtod (libc.sprintf 15 d)) = libc.sprintf 15 d
  seventeen : ∀ d, libc.finite d = true → libc.strtod (libc.sprintf 17 d) = d
  same : ∀ d, libc.finite d = true →
    libc.le (libc.fabs (libc.sub d d)) (libc.mul (libc.fabs d) libc.dblEpsilon) = true

/-- `print_number` has put the number as `null` or as a text that is finite when it is read. -/
def Doubles.Recovers (libc : Doubles ν) (text : List UInt8) : Prop :=
  libc.finite (libc.strtod text) = true →
    libc.finite (libc.strtod (libc.printNumber text)) = true

instance (text : List UInt8) : Decidable (libc.Recovers text) :=
  inferInstanceAs (Decidable (_ → _))

theorem numberText_ne_null {text : List UInt8} (h : NumberText text) : text ≠ literal "null" := by
  obtain ⟨c, rest, hText, hc⟩ := h.head
  rintro rfl
  obtain ⟨rfl, -⟩ := List.cons.inj hText
  exact absurd hc (by decide)

theorem numberBuffer_infinite {d : ν} (h : libc.finite d = false) :
    libc.numberBuffer d = literal "null" := by
  refine if_pos ?_
  by_contra hNeither
  obtain ⟨hNan, hInf⟩ := not_or.mp hNeither
  rw [Bool.not_eq_true] at hNan hInf
  rw [Doubles.finite, hNan, hInf] at h
  cases h

theorem numberBuffer_finite {d : ν} (h : libc.finite d = true) : libc.numberBuffer d =
    if (libc.sscanf (libc.sprintf 15 d)).any (libc.compareDouble · d) then libc.sprintf 15 d
    else libc.sprintf 17 d := by
  obtain ⟨hNan, hInf⟩ := Bool.and_eq_true_iff.mp h
  rw [Bool.not_eq_true'] at hNan hInf
  refine if_neg ?_
  rw [hNan, hInf]
  decide

theorem compareDouble_self (hLibc : libc.Documented) {d : ν} (h : libc.finite d = true) :
    libc.compareDouble d d = true := by
  rw [Doubles.compareDouble, ite_self]
  exact hLibc.same d h

/-- The two ways to put a finite number. -/
theorem numberBuffer_cases (hLibc : libc.Documented) {d : ν} (h : libc.finite d = true) :
    (libc.numberBuffer d = libc.sprintf 15 d ∧
      libc.compareDouble (libc.strtod (libc.sprintf 15 d)) d = true) ∨
    libc.numberBuffer d = libc.sprintf 17 d := by
  rw [numberBuffer_finite h, hLibc.scan _ (hLibc.text 15 d (.inl rfl) h).1, Option.any_some]
  split
  · rename_i hSame
    exact .inl ⟨rfl, hSame⟩
  · exact .inr rfl

theorem numberBuffer_number (hLibc : libc.Documented) {d : ν} (h : libc.finite d = true) :
    NumberText (libc.numberBuffer d) ∧ (libc.numberBuffer d).length ≤ 25 := by
  obtain ⟨hText, -⟩ | hText := numberBuffer_cases hLibc h
  · exact hText ▸ hLibc.text 15 d (.inl rfl) h
  · exact hText ▸ hLibc.text 17 d (.inr rfl) h

/-- The text fits `number_buffer`, so `print_number` does not fail. -/
theorem numberBuffer_fits (hLibc : libc.Documented) (d : ν) :
    (libc.numberBuffer d).length ≤ 25 := by
  cases h : libc.finite d with
  | false => exact numberBuffer_infinite h ▸ by decide
  | true => exact (numberBuffer_number hLibc h).2

theorem printNumber_prints (hLibc : libc.Documented) : Prints libc.printNumber := by
  intro text
  rw [Doubles.printNumber]
  cases h : libc.finite (libc.strtod text) with
  | false => exact .inl (numberBuffer_infinite h)
  | true => exact .inr (numberBuffer_number hLibc h).1

/-- A finite number is put in the same way again if it is read as a finite one. -/
theorem numberBuffer_again (hLibc : libc.Documented) {d : ν} (h : libc.finite d = true)
    (hRead : libc.finite (libc.strtod (libc.numberBuffer d)) = true) :
    libc.numberBuffer (libc.strtod (libc.numberBuffer d)) = libc.numberBuffer d := by
  obtain ⟨hText, hSame⟩ | hText := numberBuffer_cases hLibc h
  · rw [hText] at hRead ⊢
    have hDigits := hLibc.fifteen d h hRead hSame
    rw [numberBuffer_finite hRead, hDigits, hLibc.scan _ (hLibc.text 15 d (.inl rfl) h).1,
      Option.any_some, compareDouble_self hLibc hRead]
    exact if_pos rfl
  · rw [hText, hLibc.seventeen d h, hText]

end Doubles

/-! ## What is shown of a tree -/

section Values

variable (printNumber : List UInt8 → List UInt8)

def shownNumber (text : List UInt8) : CJson :=
  if printNumber text = literal "null" then .null else .number (printNumber text)

mutual

def shown : CJson → CJson
  | .null => .null
  | .bool value => .bool value
  | .number text => shownNumber printNumber text
  | .string value => .string (cString value)
  | .array items => .array (shownElements items)
  | .object members => .object (shownMembers members)

def shownElements : List CJson → List CJson
  | [] => []
  | item :: rest => shown item :: shownElements rest

def shownMembers : List (List UInt8 × CJson) → List (List UInt8 × CJson)
  | [] => []
  | member :: rest => (cString member.1, shown member.2) :: shownMembers rest

end

mutual

/-- How many brackets stand around the innermost value. -/
def nesting : CJson → Nat
  | .array items => nestingElements items + 1
  | .object members => nestingMembers members + 1
  | _ => 0

def nestingElements : List CJson → Nat
  | [] => 0
  | item :: rest => max (nesting item) (nestingElements rest)

def nestingMembers : List (List UInt8 × CJson) → Nat
  | [] => 0
  | member :: rest => max (nesting member.2) (nestingMembers rest)

end

mutual

/-- The texts of the numbers. -/
def numbers : CJson → List (List UInt8)
  | .number text => [text]
  | .array items => elementNumbers items
  | .object members => memberNumbers members
  | _ => []

def elementNumbers : List CJson → List (List UInt8)
  | [] => []
  | item :: rest => numbers item ++ elementNumbers rest

def memberNumbers : List (List UInt8 × CJson) → List (List UInt8)
  | [] => []
  | member :: rest => numbers member.2 ++ memberNumbers rest

end

/-! ## Values -/

variable {printNumber}

/-- A value begins with a byte that the loops over blanks and brackets stop at. -/
theorem printValue_head (hPrint : Prints printNumber) (item : CJson) :
    ∃ c rest, printValue printNumber item = c :: rest ∧
      0x20 < c ∧ c ≠ 0x5D ∧ c ≠ 0x7D ∧ c ≠ 0xEF := by
  cases item with
  | null => exact ⟨_, _, rfl, by decide, by decide, by decide, by decide⟩
  | bool value => cases value <;> exact ⟨_, _, rfl, by decide, by decide, by decide, by decide⟩
  | number text =>
    rw [printValue]
    rcases hPrint text with hNull | hNumber
    · rw [hNull]
      exact ⟨_, _, rfl, by decide, by decide, by decide, by decide⟩
    · obtain ⟨c, rest, hText, hc⟩ := hNumber.head
      have hByte : ∀ c : UInt8, c = 0x2D ∨ isDigit c = true →
          0x20 < c ∧ c ≠ 0x5D ∧ c ≠ 0x7D ∧ c ≠ 0xEF := forall_byte (by decide +kernel)
      exact ⟨c, rest, hText, hByte c hc⟩
  | string value =>
    rw [printValue, printStringPtr_eq]
    exact ⟨_, _, rfl, by decide, by decide, by decide, by decide⟩
  | array items | object members =>
    rw [printValue]
    exact ⟨_, _, rfl, by decide, by decide, by decide, by decide⟩

theorem printElements_head (hPrint : Prints printNumber) (item : CJson) (items : List CJson)
    (rest : List UInt8) : ∃ c text, printElements printNumber (item :: items) ++ rest = c :: text ∧
      0x20 < c ∧ c ≠ 0x5D := by
  obtain ⟨c, text, hText, hc, hOther, -⟩ := printValue_head hPrint item
  rw [printElements, hText]
  exact ⟨c, _, rfl, hc, hOther⟩

theorem printMembers_head (member : List UInt8 × CJson) (members : List (List UInt8 × CJson))
    (rest : List UInt8) :
    ∃ text, printMembers printNumber (member :: members) ++ rest = 0x22 :: text := by
  rw [printMembers, printStringPtr_eq]
  exact ⟨_, rfl⟩

theorem printElements_last (item : CJson) (rest : List UInt8) :
    printElements printNumber [item] ++ rest = printValue printNumber item ++ rest := by
  rw [printElements, printElements, List.append_nil]
  exact congrArg (· ++ rest) (List.append_nil _)

theorem printElements_comma (item next : CJson) (items : List CJson) (rest : List UInt8) :
    printElements printNumber (item :: next :: items) ++ rest =
      printValue printNumber item ++
        0x2C :: (printElements printNumber (next :: items) ++ rest) := by
  rw [printElements, List.append_assoc, List.append_assoc]
  rfl

theorem printMembers_last (member : List UInt8 × CJson) (rest : List UInt8) :
    printMembers printNumber [member] ++ rest =
      printStringPtr member.1 ++ 0x3A :: (printValue printNumber member.2 ++ rest) := by
  rw [printMembers, printMembers, List.append_nil, List.append_assoc, List.append_assoc]
  rfl

theorem printMembers_comma (member next : List UInt8 × CJson)
    (members : List (List UInt8 × CJson)) (rest : List UInt8) :
    printMembers printNumber (member :: next :: members) ++ rest =
      printStringPtr member.1 ++ 0x3A :: (printValue printNumber member.2 ++
        0x2C :: (printMembers printNumber (next :: members) ++ rest)) := by
  rw [printMembers, List.append_assoc, List.append_assoc, List.append_assoc]
  rfl

section Bracket

variable {α : Type} {close : UInt8}
  {parseItems : List UInt8 → Option (List α × List UInt8)} {item : α} {s : List UInt8}

theorem parseBracket_close (hClose : 0x20 < close) :
    parseBracket close parseItems (close :: s) = some ([], s) :=
  parseBracket_eq_some.mpr ⟨close, s, skipWhitespace_of_gt hClose s, .inl ⟨rfl, rfl, rfl⟩⟩

theorem parseBracket_items {c : UInt8} (hc : 0x20 < c) (hOther : c ≠ close) :
    parseBracket close parseItems (c :: s) = parseItems (c :: s) := by
  rw [parseBracket, skipWhitespace_of_gt hc]
  exact if_neg hOther

theorem parseNext_close (hClose : 0x20 < close) (hComma : close ≠ 0x2C) :
    parseNext close parseItems item (close :: s) = some ([item], s) :=
  (parseNext_eq_some hComma).mpr
    ⟨close, s, skipWhitespace_of_gt hClose s, .inr ⟨rfl, rfl, rfl⟩⟩

theorem parseNext_comma {c : UInt8} (hc : 0x20 < c) :
    parseNext close parseItems item (0x2C :: c :: s) =
      (parseItems (c :: s)).map (Prod.map (item :: ·) id) := by
  rw [parseNext, skipWhitespace_of_gt (by decide)]
  refine (if_pos rfl).trans ?_
  rw [skipWhitespace_of_gt hc]
  rfl

end Bracket

/-! ## The limit -/

def limited {α : Type} (levels : Nat) (read : α) : Option α :=
  if levels ≤ CJSON_NESTING_LIMIT then some read else none

theorem limited_map {α β : Type} (levels : Nat) (read : α) (f : α → β) :
    (limited levels read).map f = limited levels (f read) := by
  rw [limited, limited, apply_ite (Option.map f)]
  rfl

/-- The deeper one of two values decides. -/
theorem limited_bind {α β : Type} {depth n m : Nat} {read : α} {next : α → Option β} {result : β}
    (h : next read = limited (depth + m) result) :
    (limited (depth + n) read).bind next = limited (depth + max n m) result := by
  rw [limited] at h ⊢
  split
  · rw [Option.bind_some, h]
    exact if_congr (by omega) rfl rfl
  · rw [Option.bind_none, limited, if_neg (by omega)]

theorem nested_limited {α : Type} {depth levels : Nat} {read : Option (α × List UInt8)}
    {items : α} {rest : List UInt8} (f : α → CJson)
    (h : depth < CJSON_NESTING_LIMIT → read = limited (depth + 1 + levels) (items, rest)) :
    (if CJSON_NESTING_LIMIT ≤ depth then none else read.map (Prod.map f id)) =
      limited (depth + (levels + 1)) (f items, rest) := by
  split
  · rename_i hDeep
    exact (if_neg (by omega)).symm
  · rename_i hRoom
    rw [h (Nat.not_le.mp hRoom), limited_map, Nat.add_assoc, Nat.add_comm 1]
    rfl

/-! ## Reading a value -/

theorem ends_bracket {close : UInt8} (hClose : isNumberByte close = false) (rest : List UInt8) :
    Ends (close :: rest) := by
  intro b hb
  rw [← Option.some_inj.mp hb]
  exact hClose

theorem ValueCase.limited {fuel depth levels : Nat} {s rest : List UInt8} {item : CJson}
    (h : ValueCase fuel depth s item rest) (hDepth : depth + levels ≤ CJSON_NESTING_LIMIT) :
    CJson.parseValue (fuel + 1) depth s = CJson.limited (depth + levels) (item, rest) := by
  rw [h.parseValue]
  exact (if_pos hDepth).symm

theorem parseValue_number {fuel depth : Nat} {text rest : List UInt8}
    (hPrint : Prints printNumber) (hEnd : Ends rest) (hDepth : depth ≤ CJSON_NESTING_LIMIT) :
    parseValue (fuel + 1) depth (printNumber text ++ rest) =
      limited (depth + 0) (shownNumber printNumber text, rest) := by
  rw [shownNumber]
  rcases hPrint text with hNull | hNumber
  · rw [if_pos hNull, hNull]
    exact (ValueCase.null rest).limited hDepth
  · obtain ⟨c, tail, hText, hc⟩ := hNumber.head
    have hRead := parseNumber_print hNumber hEnd
    rw [hText, List.cons_append] at hRead
    rw [if_neg, hText]
    · exact (ValueCase.number hc hRead).limited hDepth
    · rw [hText]
      rintro ⟨⟩
      revert hc
      decide

theorem parseMembers_colon {fuel depth : Nat} {name s : List UInt8} {c : UInt8} (hc : 0x20 < c) :
    parseMembers (fuel + 1) depth (printStringPtr name ++ 0x3A :: c :: s) =
      (parseValue fuel depth (c :: s)).bind fun (item, rest) =>
        parseNext 0x7D (parseMembers fuel depth) (cString name, item) rest := by
  rw [parseMembers, parseString_print, Option.bind_some]
  dsimp only
  rw [skipWhitespace_of_gt (by decide)]
  refine (if_pos rfl).trans ?_
  rw [skipWhitespace_of_gt hc]

variable (printNumber) in
/-- Two calls for every byte are enough, as in `parse_of_succ`. -/
def ValueRead (fuel : Nat) : Prop :=
  ∀ item depth rest, Ends rest → depth ≤ CJSON_NESTING_LIMIT →
    2 * (printValue printNumber item ++ rest).length < fuel →
      parseValue fuel depth (printValue printNumber item ++ rest) =
        limited (depth + nesting item) (shown printNumber item, rest)

variable (printNumber) in
def ElementsRead (fuel : Nat) : Prop :=
  ∀ item items depth rest, depth ≤ CJSON_NESTING_LIMIT →
    2 * (printElements printNumber (item :: items) ++ 0x5D :: rest).length + 1 < fuel →
      parseElements fuel depth (printElements printNumber (item :: items) ++ 0x5D :: rest) =
        limited (depth + nestingElements (item :: items))
          (shownElements printNumber (item :: items), rest)

variable (printNumber) in
def MembersRead (fuel : Nat) : Prop :=
  ∀ member members depth rest, depth ≤ CJSON_NESTING_LIMIT →
    2 * (printMembers printNumber (member :: members) ++ 0x7D :: rest).length + 1 < fuel →
      parseMembers fuel depth (printMembers printNumber (member :: members) ++ 0x7D :: rest) =
        limited (depth + nestingMembers (member :: members))
          (shownMembers printNumber (member :: members), rest)

variable {fuel : Nat} (hPrint : Prints printNumber)
include hPrint

theorem ValueRead.succ (hElements : ElementsRead printNumber fuel)
    (hMembers : MembersRead printNumber fuel) : ValueRead printNumber (fuel + 1) := by
  intro item depth rest hEnd hDepth hFuel
  cases item with
  | null => exact (ValueCase.null rest).limited hDepth
  | bool value =>
    cases value with
    | false => exact (ValueCase.false rest).limited hDepth
    | true => exact (ValueCase.true rest).limited hDepth
  | number text => exact parseValue_number hPrint hEnd hDepth
  | string value => exact (ValueCase.string (parseString_print value rest)).limited hDepth
  | array items =>
    rw [printValue, List.cons_append, List.append_assoc, List.singleton_append] at hFuel ⊢
    rw [List.length_cons] at hFuel
    rw [parseValue_cons fuel depth (by decide), if_neg (by decide), if_neg (by decide),
      if_pos rfl]
    refine nested_limited .array fun hRoom => ?_
    cases items with
    | nil =>
      refine (parseBracket_close (by decide)).trans ?_
      exact (if_pos hRoom).symm
    | cons item items =>
      have hItems := hElements item items (depth + 1) rest hRoom (by omega)
      obtain ⟨c, text, hText, hc, hOther⟩ := printElements_head hPrint item items (0x5D :: rest)
      rw [hText] at hItems ⊢
      exact (parseBracket_items hc hOther).trans hItems
  | object members =>
    rw [printValue, List.cons_append, List.append_assoc, List.singleton_append] at hFuel ⊢
    rw [List.length_cons] at hFuel
    rw [parseValue_cons fuel depth (by decide), if_neg (by decide), if_neg (by decide),
      if_neg (by decide), if_pos rfl]
    refine nested_limited .object fun hRoom => ?_
    cases members with
    | nil =>
      refine (parseBracket_close (by decide)).trans ?_
      exact (if_pos hRoom).symm
    | cons member members =>
      have hItems := hMembers member members (depth + 1) rest hRoom (by omega)
      obtain ⟨text, hText⟩ : ∃ text, printMembers printNumber (member :: members) ++
          0x7D :: rest = 0x22 :: text := printMembers_head member members _
      rw [hText] at hItems ⊢
      exact (parseBracket_items (by decide) (by decide)).trans hItems

theorem ElementsRead.succ (hValue : ValueRead printNumber fuel)
    (hElements : ElementsRead printNumber fuel) : ElementsRead printNumber (fuel + 1) := by
  intro item items depth rest hDepth hFuel
  cases items with
  | nil =>
    rw [printElements_last] at hFuel ⊢
    rw [parseElements, hValue item depth _ (ends_bracket (by decide) _) hDepth (by omega)]
    refine limited_bind ((parseNext_close (by decide) (by decide)).trans ?_)
    exact (if_pos hDepth).symm
  | cons next items =>
    rw [printElements_comma] at hFuel ⊢
    rw [parseElements, hValue item depth _ (ends_bracket (by decide) _) hDepth (by omega)]
    rw [List.length_append, List.length_cons] at hFuel
    refine limited_bind ?_
    have hRest := hElements next items depth rest hDepth (by omega)
    obtain ⟨c, text, hText, hc, -⟩ := printElements_head hPrint next items (0x5D :: rest)
    rw [hText] at hRest ⊢
    refine (parseNext_comma hc).trans ?_
    rw [hRest, limited_map]
    rfl

theorem MembersRead.succ (hValue : ValueRead printNumber fuel)
    (hMembers : MembersRead printNumber fuel) : MembersRead printNumber (fuel + 1) := by
  intro member members depth rest hDepth hFuel
  obtain ⟨c, text, hText, hc, -⟩ := printValue_head hPrint member.2
  have hColon : ∀ rest, parseMembers (fuel + 1) depth
      (printStringPtr member.1 ++ 0x3A :: (printValue printNumber member.2 ++ rest)) =
        (parseValue fuel depth (printValue printNumber member.2 ++ rest)).bind
          fun (item, rest) => parseNext 0x7D (parseMembers fuel depth) (cString member.1, item)
            rest := by
    intro rest
    rw [hText]
    exact parseMembers_colon hc
  cases members with
  | nil =>
    rw [printMembers_last] at hFuel ⊢
    rw [List.length_append, List.length_cons] at hFuel
    rw [hColon, hValue member.2 depth _ (ends_bracket (by decide) _) hDepth (by omega)]
    refine limited_bind ((parseNext_close (by decide) (by decide)).trans ?_)
    exact (if_pos hDepth).symm
  | cons next members =>
    rw [printMembers_comma] at hFuel ⊢
    rw [List.length_append, List.length_cons] at hFuel
    rw [hColon, hValue member.2 depth _ (ends_bracket (by decide) _) hDepth (by omega)]
    rw [List.length_append, List.length_cons] at hFuel
    refine limited_bind ?_
    have hRest := hMembers next members depth rest hDepth (by omega)
    obtain ⟨text, hText⟩ : ∃ text, printMembers printNumber (next :: members) ++
        0x7D :: rest = 0x22 :: text := printMembers_head next members _
    rw [hText] at hRest ⊢
    refine (parseNext_comma (by decide)).trans ?_
    rw [hRest, limited_map]
    rfl

theorem parse_print (fuel : Nat) : ValueRead printNumber fuel ∧
    ElementsRead printNumber fuel ∧ MembersRead printNumber fuel := by
  induction fuel with
  | zero =>
    exact ⟨fun _ _ _ _ _ h => absurd h (Nat.not_lt_zero _),
      fun _ _ _ _ _ h => absurd h (Nat.not_lt_zero _),
      fun _ _ _ _ _ h => absurd h (Nat.not_lt_zero _)⟩
  | succ fuel ih =>
    obtain ⟨hValue, hElements, hMembers⟩ := ih
    exact ⟨.succ hPrint hElements hMembers, .succ hPrint hValue hElements,
      .succ hPrint hValue hMembers⟩

/-- The parser takes a printed tree exactly if it is nested no deeper than the limit, and then
finds what is shown of it. -/
theorem parseWithLength_print (root : CJson) :
    parseWithLength (printUnformatted printNumber root) =
      limited (nesting root) (shown printNumber root) := by
  obtain ⟨c, text, hText, hc, -, -, hBom⟩ := printValue_head hPrint root
  have hStart : skipWhitespace (skipUtf8Bom (printValue printNumber root)) =
      printValue printNumber root := by
    have hNone : ¬ (4 < (c :: text).length ∧ (c :: text).take 3 = [0xEF, 0xBB, 0xBF]) :=
      fun h => hBom (List.cons.inj h.2).1
    rw [hText, skipUtf8Bom, if_neg hNone]
    exact skipWhitespace_of_gt hc text
  have hRead := (parse_print hPrint (enough (printValue printNumber root))).1 root 0 []
    (fun b hb => by cases hb) (Nat.zero_le _)
    (by rw [List.append_nil, enough]; exact Nat.lt_succ_self _)
  rw [List.append_nil, Nat.zero_add] at hRead
  rw [printUnformatted, parseWithLength, hStart, hRead, limited_map]

end Values

/-! ## What was read can be written -/

theorem limited_eq_some {α : Type} {levels : Nat} {read result : α} :
    limited levels read = some result ↔ levels ≤ CJSON_NESTING_LIMIT ∧ result = read := by
  rw [limited]
  split
  · rename_i hRoom
    rw [Option.some_inj, and_iff_right hRoom]
    exact eq_comm
  · rename_i hDeep
    exact iff_of_false (fun h => by cases h) fun h => hDeep h.1

section Nesting

variable {α : Type} {close : UInt8}
  {parseItems : List UInt8 → Option (List α × List UInt8)} {P : List α → Prop}
  {item : α} {s : List UInt8} {read : List α × List UInt8}

theorem parseBracket_holds (h : parseBracket close parseItems s = some read)
    (hNone : P []) (hItems : ∀ s read, parseItems s = some read → P read.1) : P read.1 := by
  obtain ⟨items, rest⟩ := read
  obtain ⟨c, after, -, ⟨-, rfl, -⟩ | ⟨-, hRead⟩⟩ := parseBracket_eq_some.mp h
  · exact hNone
  · exact hItems _ _ hRead

theorem parseNext_holds (hClose : close ≠ 0x2C)
    (h : parseNext close parseItems item s = some read) (hLast : P [item])
    (hItems : ∀ s read, parseItems s = some read → P (item :: read.1)) : P read.1 := by
  obtain ⟨items, rest⟩ := read
  obtain ⟨c, after, -, ⟨-, others, hRead, rfl⟩ | ⟨-, rfl, -⟩⟩ := (parseNext_eq_some hClose).mp h
  · exact hItems _ _ hRead
  · exact hLast

end Nesting

theorem parse_nesting (fuel : Nat) :
    (∀ depth s read, depth ≤ CJSON_NESTING_LIMIT → parseValue fuel depth s = some read →
      depth + nesting read.1 ≤ CJSON_NESTING_LIMIT) ∧
    (∀ depth s read, depth ≤ CJSON_NESTING_LIMIT → parseElements fuel depth s = some read →
      depth + nestingElements read.1 ≤ CJSON_NESTING_LIMIT) ∧
    ∀ depth s read, depth ≤ CJSON_NESTING_LIMIT → parseMembers fuel depth s = some read →
      depth + nestingMembers read.1 ≤ CJSON_NESTING_LIMIT := by
  induction fuel with
  | zero =>
    refine ⟨?_, ?_, ?_⟩ <;>
      · intro depth s read hDepth h
        cases h
  | succ fuel ih =>
    obtain ⟨ihValue, ihElements, ihMembers⟩ := ih
    refine ⟨?_, ?_, ?_⟩
    · intro depth s read hDepth h
      obtain ⟨value, rest⟩ := read
      cases ValueCase.of_parseValue h with
      | null | false | true | string => exact hDepth
      | number hc h =>
        rw [(parseNumber_eq_some.mp h).2.1]
        exact hDepth
      | array h =>
        obtain ⟨hRoom, items, hItems, rfl⟩ := parseArray_eq_some.mp h
        have hInner : depth + 1 + nestingElements items ≤ CJSON_NESTING_LIMIT :=
          parseBracket_holds (P := fun items => depth + 1 + nestingElements items ≤ _) hItems
            hRoom fun s read => ihElements _ s read hRoom
        rw [nesting]
        omega
      | object h =>
        obtain ⟨hRoom, members, hItems, rfl⟩ := parseObject_eq_some.mp h
        have hInner : depth + 1 + nestingMembers members ≤ CJSON_NESTING_LIMIT :=
          parseBracket_holds (P := fun members => depth + 1 + nestingMembers members ≤ _) hItems
            hRoom fun s read => ihMembers _ s read hRoom
        rw [nesting]
        omega
    · intro depth s read hDepth h
      obtain ⟨items, rest⟩ := read
      obtain ⟨item, after, hItem, hNext⟩ := parseElements_eq_some.mp h
      have hFirst : depth + nesting item ≤ CJSON_NESTING_LIMIT := ihValue _ _ _ hDepth hItem
      refine parseNext_holds (P := fun items => depth + nestingElements items ≤ _) (by decide)
        hNext ?_ fun s read hRead => ?_
      · rw [nestingElements, nestingElements, Nat.max_zero]
        exact hFirst
      · have hOthers := ihElements _ _ _ hDepth hRead
        rw [nestingElements]
        omega
    · intro depth s read hDepth h
      obtain ⟨members, rest⟩ := read
      obtain ⟨name, colon, start, item, after, -, -, hItem, hNext⟩ := parseMembers_eq_some.mp h
      have hFirst : depth + nesting (name, item).2 ≤ CJSON_NESTING_LIMIT :=
        ihValue _ _ _ hDepth hItem
      refine parseNext_holds (P := fun members => depth + nestingMembers members ≤ _) (by decide)
        hNext ?_ fun s read hRead => ?_
      · rw [nestingMembers, nestingMembers, Nat.max_zero]
        exact hFirst
      · have hOthers := ihMembers _ _ _ hDepth hRead
        rw [nestingMembers]
        omega

theorem parseWithLength_nesting {s : List UInt8} {root : CJson}
    (h : parseWithLength s = some root) : nesting root ≤ CJSON_NESTING_LIMIT := by
  obtain ⟨⟨_, rest⟩, hRead, rfl⟩ := Option.map_eq_some_iff.mp h
  have hLevels := (parse_nesting _).1 _ _ _ (Nat.zero_le _) hRead
  rwa [Nat.zero_add] at hLevels

/-! ## What is shown is all that is printed -/

theorem cString_cString (s : List UInt8) : cString (cString s) = cString s :=
  cString_eq_self fun _ hb => cString_nonzero hb

section Shown

variable (printNumber : List UInt8 → List UInt8)

theorem shownElements_eq (items : List CJson) :
    shownElements printNumber items = items.map (shown printNumber) := by
  induction items with
  | nil => rfl
  | cons item rest ih => rw [shownElements, ih, List.map_cons]

theorem shownMembers_eq (members : List (List UInt8 × CJson)) :
    shownMembers printNumber members = members.map (Prod.map cString (shown printNumber)) := by
  induction members with
  | nil => rfl
  | cons member rest ih => rw [shownMembers, ih, List.map_cons, Prod.map]

theorem getObjectItem_shown (root : CJson) (name : List UInt8) :
    getObjectItem (shown printNumber root) name =
      (getObjectItem root name).map (shown printNumber) := by
  have hChildren : (shown printNumber root).children =
      root.children.map (Prod.map (Option.map cString) (shown printNumber)) := by
    cases root with
    | null | bool | string => rfl
    | number text =>
      rw [shown, shownNumber]
      split <;> rfl
    | array items =>
      rw [shown, shownElements_eq, children, children, List.map_map, List.map_map]
      rfl
    | object members =>
      rw [shown, shownMembers_eq, children, children, List.map_map, List.map_map]
      rfl
  rw [getObjectItem, hChildren, List.find?_map, Option.map_map, getObjectItem, Option.map_map]
  have hName : ∀ child : Option (List UInt8) × CJson,
      (child.1.map cString).any (fun string => (cString string).map tolower = name.map tolower) =
        child.1.any fun string => (cString string).map tolower = name.map tolower := by
    rintro ⟨_ | string, item⟩
    · rfl
    · exact congrArg (fun s => decide (s.map tolower = name.map tolower)) (cString_cString string)
  exact congrArg (Option.map _) (congrArg₂ _ (funext hName) rfl)

variable {printNumber}

theorem printStringPtr_cString (value : List UInt8) :
    printStringPtr (cString value) = printStringPtr value := by
  rw [printStringPtr_eq, cString_cString, ← printStringPtr_eq]

/-- A member that is looked up in the text is the one that the writer would find. -/
theorem getObjectItem_read (hPrint : Prints printNumber) {root : CJson}
    (hLevels : nesting root ≤ CJSON_NESTING_LIMIT) (name : List UInt8) :
    (parseWithLength (printUnformatted printNumber root)).bind (fun read =>
      read.getObjectItem name) = (getObjectItem root name).map (shown printNumber) := by
  rw [parseWithLength_print hPrint, limited, if_pos hLevels, Option.bind_some,
    getObjectItem_shown]

/-- What was read of a number is printed as the number was. -/
def PrintsAgain (printNumber : List UInt8 → List UInt8) (text : List UInt8) : Prop :=
  printValue printNumber (shownNumber printNumber text) = printNumber text

mutual

theorem printValue_shown (item : CJson) : (∀ text ∈ numbers item, PrintsAgain printNumber text) →
    printValue printNumber (shown printNumber item) = printValue printNumber item := by
  cases item with
  | null | bool => exact fun _ => rfl
  | number text => exact fun h => h text (List.mem_singleton_self text)
  | string value => exact fun _ => printStringPtr_cString value
  | array items =>
    intro h
    rw [shown, printValue, printElements_shown items h, printValue]
  | object members =>
    intro h
    rw [shown, printValue, printMembers_shown members h, printValue]
termination_by sizeOf item

theorem printElements_shown (items : List CJson) :
    (∀ text ∈ elementNumbers items, PrintsAgain printNumber text) →
      printElements printNumber (shownElements printNumber items) =
        printElements printNumber items := by
  cases items with
  | nil => exact fun _ => rfl
  | cons item rest =>
    intro h
    obtain ⟨hItem, hRest⟩ := List.forall_mem_append.mp h
    rw [shownElements, printElements, printValue_shown item hItem,
      printElements_shown rest hRest, printElements, shownElements_eq, List.isEmpty_map]
termination_by sizeOf items

theorem printMembers_shown (members : List (List UInt8 × CJson)) :
    (∀ text ∈ memberNumbers members, PrintsAgain printNumber text) →
      printMembers printNumber (shownMembers printNumber members) =
        printMembers printNumber members := by
  cases members with
  | nil => exact fun _ => rfl
  | cons member rest =>
    obtain ⟨name, item⟩ := member
    intro h
    obtain ⟨hItem, hRest⟩ := List.forall_mem_append.mp h
    rw [shownMembers, printMembers, printStringPtr_cString, printValue_shown item hItem,
      printMembers_shown rest hRest, printMembers, shownMembers_eq, List.isEmpty_map]
termination_by sizeOf members

end

/-- A number that reading and printing leave as it was read is printed again as it was. -/
theorem printsAgain_of_shown {text : List UInt8}
    (h : shown printNumber (shownNumber printNumber text) = shownNumber printNumber text) :
    PrintsAgain printNumber text := by
  rw [PrintsAgain]
  rw [shownNumber] at h ⊢
  split at h
  · rename_i hNull
    rw [if_pos hNull]
    exact hNull.symm
  · rename_i hNumber
    rw [if_neg hNumber]
    rw [shown, shownNumber] at h
    split at h
    · cases h
    · exact CJson.number.inj h

mutual

theorem shown_again (item : CJson) :
    shown printNumber (shown printNumber item) = shown printNumber item →
      ∀ text ∈ numbers item, PrintsAgain printNumber text := by
  cases item with
  | null | bool | string => exact fun _ => List.forall_mem_nil _
  | number text => exact fun h => List.forall_mem_singleton.mpr (printsAgain_of_shown h)
  | array items => exact fun h => shownElements_again items (CJson.array.inj h)
  | object members => exact fun h => shownMembers_again members (CJson.object.inj h)
termination_by sizeOf item

theorem shownElements_again (items : List CJson) :
    shownElements printNumber (shownElements printNumber items) =
      shownElements printNumber items →
        ∀ text ∈ elementNumbers items, PrintsAgain printNumber text := by
  cases items with
  | nil => exact fun _ => List.forall_mem_nil _
  | cons item rest =>
    intro h
    obtain ⟨hItem, hRest⟩ := List.cons.inj h
    exact List.forall_mem_append.mpr ⟨shown_again item hItem, shownElements_again rest hRest⟩
termination_by sizeOf items

theorem shownMembers_again (members : List (List UInt8 × CJson)) :
    shownMembers printNumber (shownMembers printNumber members) =
      shownMembers printNumber members →
        ∀ text ∈ memberNumbers members, PrintsAgain printNumber text := by
  cases members with
  | nil => exact fun _ => List.forall_mem_nil _
  | cons member rest =>
    obtain ⟨name, item⟩ := member
    intro h
    obtain ⟨hMember, hRest⟩ := List.cons.inj h
    exact List.forall_mem_append.mpr
      ⟨shown_again item (Prod.mk.inj hMember).2, shownMembers_again rest hRest⟩
termination_by sizeOf members

end

/-- Two texts that are alike are read alike, so the printing of a tree that was read is its own
printing again exactly if that of each number is. -/
theorem printed_again (hPrint : Prints printNumber) {root : CJson}
    (hLevels : nesting root ≤ CJSON_NESTING_LIMIT) :
    printUnformatted printNumber (shown printNumber root) = printUnformatted printNumber root ↔
      ∀ text ∈ numbers root, PrintsAgain printNumber text := by
  refine ⟨fun hSame => shown_again root ?_, printValue_shown root⟩
  have hRead : parseWithLength (printUnformatted printNumber root) =
      some (shown printNumber root) :=
    (parseWithLength_print hPrint root).trans (if_pos hLevels)
  have hAgain := parseWithLength_print hPrint (shown printNumber root)
  rw [hSame, hRead, limited, if_pos (parseWithLength_nesting hRead)] at hAgain
  exact (Option.some.inj hAgain).symm

end Shown

section Doubles

variable {ν : Type} {libc : Doubles ν}

theorem printsAgain_iff (hLibc : libc.Documented) (text : List UInt8) :
    PrintsAgain libc.printNumber text ↔ libc.Recovers text := by
  rw [PrintsAgain, shownNumber, Doubles.Recovers]
  cases h : libc.finite (libc.strtod text) with
  | false =>
    have hNull : libc.printNumber text = literal "null" := numberBuffer_infinite h
    rw [if_pos hNull]
    exact iff_of_true hNull.symm fun hFinite => by cases hFinite
  | true =>
    have hNumber : NumberText (libc.printNumber text) := (numberBuffer_number hLibc h).1
    rw [if_neg (numberText_ne_null hNumber), printValue, forall_prop_of_true rfl]
    constructor
    · intro hSame
      by_contra hRead
      rw [Bool.not_eq_true] at hRead
      exact numberText_ne_null hNumber (hSame.symm.trans (numberBuffer_infinite hRead))
    · exact numberBuffer_again hLibc h

/-- A tree that was read is printed to a text that is read again. Printed once more it gives the
same text exactly if each of its numbers was put as one that is finite when it is read. -/
theorem parse_print_parse (hLibc : libc.Documented) {s : List UInt8} {root : CJson}
    (h : parseWithLength s = some root) :
    ∃ again, parseWithLength (printUnformatted libc.printNumber root) = some again ∧
      (printUnformatted libc.printNumber again = printUnformatted libc.printNumber root ↔
        ∀ text ∈ numbers root, libc.Recovers text) := by
  have hPrint := printNumber_prints hLibc
  have hLevels := parseWithLength_nesting h
  refine ⟨shown libc.printNumber root, ?_, ?_⟩
  · exact (parseWithLength_print hPrint root).trans (if_pos hLevels)
  · rw [printed_again hPrint hLevels]
    exact forall₂_congr fun text _ => printsAgain_iff hLibc text

end Doubles

/-! ## A printed text as a C string -/

theorem escaped_nonzero (input : List UInt8) : ∀ b ∈ input.flatMap escapeByte, b ≠ 0 := by
  have hEscape : ∀ c : UInt8, (escapeByte c).all (fun b => b ≠ 0) = true :=
    forall_byte (by decide +kernel)
  intro b hb
  obtain ⟨c, -, hc⟩ := List.mem_flatMap.mp hb
  exact of_decide_eq_true (List.all_eq_true.mp (hEscape c) b hc)

theorem printStringPtr_nonzero (value : List UInt8) : ∀ b ∈ printStringPtr value, b ≠ 0 := by
  rw [printStringPtr_eq, List.forall_mem_cons, List.forall_mem_append, List.forall_mem_singleton]
  exact ⟨by decide, escaped_nonzero _, by decide⟩

theorem separator_nonzero {α : Type} (rest : List α) :
    ∀ b ∈ (if rest.isEmpty then [] else [0x2C] : List UInt8), b ≠ 0 := by
  split
  · exact List.forall_mem_nil _
  · exact List.forall_mem_singleton.mpr (by decide)

section Nonzero

variable {printNumber : List UInt8 → List UInt8}

theorem printNumber_nonzero (hPrint : Prints printNumber) (text : List UInt8) :
    ∀ b ∈ printNumber text, b ≠ 0 := by
  have hByte : ∀ b : UInt8, isNumberByte b = true → b ≠ 0 := forall_byte (by decide +kernel)
  rcases hPrint text with hNull | hNumber
  · rw [hNull]
    exact plain_nonzero (by decide)
  · exact fun b hb => hByte b (hNumber.bytes b hb)

mutual

theorem printValue_nonzero (hPrint : Prints printNumber) (item : CJson) :
    ∀ b ∈ printValue printNumber item, b ≠ 0 := by
  cases item with
  | null =>
    rw [printValue]
    exact plain_nonzero (by decide)
  | bool value =>
    rw [printValue]
    cases value <;> exact plain_nonzero (by decide)
  | number text => exact printNumber_nonzero hPrint text
  | string value => exact printStringPtr_nonzero value
  | array items =>
    rw [printValue, List.forall_mem_cons, List.forall_mem_append, List.forall_mem_singleton]
    exact ⟨by decide, printElements_nonzero hPrint items, by decide⟩
  | object members =>
    rw [printValue, List.forall_mem_cons, List.forall_mem_append, List.forall_mem_singleton]
    exact ⟨by decide, printMembers_nonzero hPrint members, by decide⟩
termination_by sizeOf item

theorem printElements_nonzero (hPrint : Prints printNumber) (items : List CJson) :
    ∀ b ∈ printElements printNumber items, b ≠ 0 := by
  cases items with
  | nil => exact List.forall_mem_nil _
  | cons item rest =>
    rw [printElements, List.forall_mem_append, List.forall_mem_append]
    exact ⟨⟨printValue_nonzero hPrint item, separator_nonzero rest⟩,
      printElements_nonzero hPrint rest⟩
termination_by sizeOf items

theorem printMembers_nonzero (hPrint : Prints printNumber)
    (members : List (List UInt8 × CJson)) : ∀ b ∈ printMembers printNumber members, b ≠ 0 := by
  cases members with
  | nil => exact List.forall_mem_nil _
  | cons member rest =>
    obtain ⟨name, item⟩ := member
    rw [printMembers, List.forall_mem_append, List.forall_mem_append, List.forall_mem_append,
      List.forall_mem_cons]
    exact ⟨⟨⟨printStringPtr_nonzero name, by decide, printValue_nonzero hPrint item⟩,
      separator_nonzero rest⟩, printMembers_nonzero hPrint rest⟩
termination_by sizeOf members

end

/-- The function that copies the text with `strcpy` gets all of it. -/
theorem cString_print (hPrint : Prints printNumber) (root : CJson) :
    cString (printUnformatted printNumber root) = printUnformatted printNumber root :=
  cString_eq_self (printValue_nonzero hPrint root)

end Nonzero

/-! A `double` of two digits and an infinity. The largest number, 99, has no text of the shorter
kind, just as the largest `double` has none of fifteen digits. -/

def twoDigitsRead (text : List UInt8) : Option (Fin 100) :=
  let value := (text.takeWhile isDigit).foldl (fun value b => 10 * value + (b.toNat - 48)) 0
  if h : value < 100 then some ⟨value, h⟩ else none

def twoDigits : Doubles (Option (Fin 100)) where
  strtod := twoDigitsRead
  sprintf n d := match d with
    | some ⟨value, _⟩ =>
      if n = 15 ∧ value = 99 then literal "100"
      else if value < 10 then [UInt8.ofNat (48 + value)]
      else [UInt8.ofNat (48 + value / 10), UInt8.ofNat (48 + value % 10)]
    | none => literal "inf"
  sscanf text := some (twoDigitsRead text)
  isnan _ := false
  isinf d := d.isNone
  fabs d := d
  sub
    | some a, some b => some (if a ≤ b then b - a else a - b)
    | _, _ => none
  mul
    | some a, some b => some (a * b)
    | _, _ => none
  gt
    | some a, some b => b < a
    | none, some _ => true
    | _, none => false
  le
    | some a, some b => a ≤ b
    | none, some _ => false
    | _, none => true
  dblEpsilon := some ⟨0, by decide⟩

theorem twoDigits_text : ∀ n ∈ [15, 17], ∀ value : Fin 100,
    NumberText (twoDigits.sprintf n (some value)) ∧
      (twoDigits.sprintf n (some value)).length ≤ 25 := by
  decide +kernel

theorem twoDigits_documented : twoDigits.Documented where
  text n d hPrecision hFinite := by
    cases d with
    | none => cases hFinite
    | some value => exact twoDigits_text n (by rcases hPrecision with rfl | rfl <;> decide) value
  scan _ _ := rfl
  fifteen d hFinite := by
    have hAll : ∀ value : Fin 100,
        twoDigits.finite (twoDigits.strtod (twoDigits.sprintf 15 (some value))) = true →
          twoDigits.sprintf 15 (twoDigits.strtod (twoDigits.sprintf 15 (some value))) =
            twoDigits.sprintf 15 (some value) := by decide +kernel
    cases d with
    | none => cases hFinite
    | some value => exact fun hRead _ => hAll value hRead
  seventeen d hFinite := by
    have hAll : ∀ value : Fin 100,
        twoDigits.strtod (twoDigits.sprintf 17 (some value)) = some value := by decide +kernel
    cases d with
    | none => cases hFinite
    | some value => exact hAll value
  same d hFinite := by
    have hAll : ∀ value : Fin 100, twoDigits.le (twoDigits.fabs (twoDigits.sub (some value)
        (some value))) (twoDigits.mul (twoDigits.fabs (some value)) twoDigits.dblEpsilon) = true :=
      by decide +kernel
    cases d with
    | none => cases hFinite
    | some value => exact hAll value

theorem twoDigits_prints : Prints twoDigits.printNumber :=
  printNumber_prints twoDigits_documented

/-- 99 is put with three digits, and these are the infinity when they are read. -/
example : twoDigits.printNumber (literal "99") = literal "100" ∧
    twoDigits.printNumber (literal "100") = literal "null" ∧
    ¬ twoDigits.Recovers (literal "99") := by
  decide +kernel

def sampleDocument : CJson :=
  .object [(literal "message", .string (literal "\"25\"\n")),
    (literal "values", .array [.number (literal "25.0"), .null, .bool true])]

theorem sampleDocument_read : parseWithLength (printUnformatted twoDigits.printNumber
    sampleDocument) = limited (nesting sampleDocument) (shown twoDigits.printNumber
      sampleDocument) :=
  parseWithLength_print twoDigits_prints sampleDocument

theorem sampleDocument_member :
    (parseWithLength (printUnformatted twoDigits.printNumber sampleDocument)).bind (fun read =>
      read.getObjectItem (literal "VALUES")) =
        (getObjectItem sampleDocument (literal "VALUES")).map (shown twoDigits.printNumber) :=
  getObjectItem_read twoDigits_prints (by decide) (literal "VALUES")

/-- The text of the sample has `25` for the number. -/
theorem sampleDocument_again : ∃ again,
    parseWithLength (printUnformatted twoDigits.printNumber
      (shown twoDigits.printNumber sampleDocument)) = some again ∧
      printUnformatted twoDigits.printNumber again = printUnformatted twoDigits.printNumber
        (shown twoDigits.printNumber sampleDocument) := by
  obtain ⟨again, hRead, hSame⟩ := parse_print_parse twoDigits_documented
    ((parseWithLength_print twoDigits_prints sampleDocument).trans
      (limited_eq_some.mpr ⟨by decide, rfl⟩))
  exact ⟨again, hRead, hSame.mpr (by decide +kernel)⟩

end FcomGateway.CJson
