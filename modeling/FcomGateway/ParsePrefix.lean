import FcomGateway.CJson
import Mathlib.Data.List.TakeWhile

/-! # What the parser reads

A successful call leaves a proper rest of its input, so `enough` calls are enough. It has not
looked at the rest, except at the byte behind a number: bytes appended there change nothing.
-/

namespace FcomGateway

namespace CJson

/-! ## Blanks -/

theorem skipWhitespace_suffix (s : List UInt8) : skipWhitespace s <:+ s := by
  fun_induction skipWhitespace s with
  | case1 => exact List.suffix_refl _
  | case2 c => exact List.suffix_refl _
  | case3 c d rest hBlank ih => exact ih.trans (List.suffix_cons c _)
  | case4 c d rest hBlank => exact List.suffix_refl _

theorem skipWhitespace_length_le (s : List UInt8) : (skipWhitespace s).length ≤ s.length :=
  (skipWhitespace_suffix s).length_le

theorem skipWhitespace_of_gt {c : UInt8} (h : 0x20 < c) (rest : List UInt8) :
    skipWhitespace (c :: rest) = c :: rest := by
  cases rest with
  | nil => rfl
  | cons d rest => rw [skipWhitespace, if_neg (UInt8.not_le.mpr h)]

theorem skipWhitespace_append {s rest : List UInt8} {c : UInt8}
    (h : skipWhitespace s = c :: rest) (hc : 0x20 < c) (more : List UInt8) :
    skipWhitespace (s ++ more) = c :: (rest ++ more) := by
  fun_induction skipWhitespace s with
  | case1 => cases h
  | case2 d =>
    cases h
    exact skipWhitespace_of_gt hc more
  | case3 d e tail hBlank ih =>
    rw [List.cons_append, List.cons_append, skipWhitespace, if_pos hBlank]
    exact ih h
  | case4 d e tail hBlank =>
    cases h
    exact skipWhitespace_of_gt hc _

/-! ## Numbers -/

theorem signLength_le (s : List UInt8) : signLength s ≤ s.length := by
  fun_cases signLength s <;> simp

theorem digitsLength_le (s : List UInt8) : digitsLength s ≤ s.length :=
  (List.takeWhile_prefix isDigit).length_le

theorem exponentLength_le (s : List UInt8) : exponentLength s ≤ s.length := by
  fun_cases exponentLength s with
  | case1 c rest hMark sign digits hNone => exact Nat.zero_le _
  | case2 c rest hMark sign digits hSome =>
    have hSign : sign ≤ rest.length := signLength_le rest
    have hDigits : digits ≤ (rest.drop sign).length := digitsLength_le _
    rw [List.length_drop] at hDigits
    rw [List.length_cons]
    omega
  | case3 c rest hMark => exact Nat.zero_le _
  | case4 => exact Nat.le_refl _

theorem strtodLength_le (s : List UInt8) : strtodLength s ≤ s.length := by
  have hSign : signLength s ≤ s.length := signLength_le s
  have hWhole := digitsLength_le (s.drop (signLength s))
  have hFraction := digitsLength_le
    ((s.drop (signLength s + digitsLength (s.drop (signLength s)))).drop 1)
  simp only [List.length_drop] at hWhole hFraction
  unfold strtodLength
  extract_lets sign whole afterWhole fraction point mantissa
  split
  · exact Nat.zero_le _
  · have hMantissa : mantissa ≤ s.length := by
      by_cases hPoint : afterWhole.head? = some 0x2E
      · have hSome : 0 < afterWhole.length := by
          cases hAfter : afterWhole with
          | nil => rw [hAfter] at hPoint; cases hPoint
          | cons => exact Nat.succ_pos _
        simp only [mantissa, point, fraction, if_pos hPoint, afterWhole, whole, sign,
          List.length_drop] at hSome ⊢
        omega
      · simp only [mantissa, point, fraction, if_neg hPoint, whole, sign]
        omega
    have hExponent := exponentLength_le (s.drop mantissa)
    rw [List.length_drop] at hExponent
    omega

theorem numberText_length_le (s : List UInt8) : (numberText s).length ≤ s.length := by
  have hTake := (List.takeWhile_prefix isNumberByte (l := s.take 63)).length_le
  rw [List.length_take] at hTake
  exact hTake.trans (Nat.min_le_right _ _)

/-- A byte that no number contains ends the text of the number wherever it stands. -/
theorem numberText_append {s : List UInt8} {b : UInt8} (hb : b ∈ s)
    (hEnd : isNumberByte b = false) (more : List UInt8) :
    numberText (s ++ more) = numberText s := by
  unfold numberText
  rw [List.take_append]
  by_cases hLong : 63 ≤ s.length
  · rw [Nat.sub_eq_zero_of_le hLong, List.take_zero, List.append_nil]
  · rw [List.take_of_length_le (by omega), List.takeWhile_append, if_neg]
    intro hAll
    have hWhole := (List.takeWhile_prefix isNumberByte (l := s)).eq_of_length hAll
    have hByte := List.mem_takeWhile_imp (hWhole.symm ▸ hb)
    rw [hEnd] at hByte
    cases hByte

theorem parseNumber_eq_some {s rest : List UInt8} {value : CJson} :
    parseNumber s = some (value, rest) ↔ strtodLength (numberText s) ≠ 0 ∧
      value = .number ((numberText s).take (strtodLength (numberText s))) ∧
      rest = s.drop (strtodLength (numberText s)) := by
  simp only [parseNumber]
  split
  · rename_i hNone
    exact iff_of_false (fun h => by cases h) fun h => h.1 hNone
  · rename_i hSome
    rw [Option.some_inj, Prod.mk.injEq]
    exact ⟨fun h => ⟨hSome, h.1.symm, h.2.symm⟩, fun h => ⟨h.2.1.symm, h.2.2.symm⟩⟩

theorem parseNumber_shorter {s rest : List UInt8} {value : CJson}
    (h : parseNumber s = some (value, rest)) : rest.length < s.length := by
  obtain ⟨hSome, -, rfl⟩ := parseNumber_eq_some.mp h
  have hText := strtodLength_le (numberText s)
  have hCopy := numberText_length_le s
  rw [List.length_drop]
  omega

theorem parseNumber_append {s rest : List UInt8} {value : CJson} {b : UInt8}
    (h : parseNumber s = some (value, rest)) (hb : b ∈ rest) (hEnd : isNumberByte b = false)
    (more : List UInt8) : parseNumber (s ++ more) = some (value, rest ++ more) := by
  obtain ⟨hSome, rfl, rfl⟩ := parseNumber_eq_some.mp h
  have hText := strtodLength_le (numberText s)
  have hCopy := numberText_length_le s
  rw [parseNumber_eq_some, numberText_append (List.mem_of_mem_drop hb) hEnd]
  exact ⟨hSome, rfl, (List.drop_append_of_le_length (hText.trans hCopy)).symm⟩

/-! ## Strings -/

theorem stringBody_quote (rest : List UInt8) : stringBody (0x22 :: rest) = some ([], rest) := by
  rw [stringBody.eq_def]
  exact if_pos rfl

theorem stringBody_escape (e : UInt8) (rest : List UInt8) : stringBody (0x5C :: e :: rest) =
    (stringBody rest).map fun (body, rest) => (0x5C :: e :: body, rest) := by
  rw [stringBody.eq_def]
  exact (if_neg (by decide)).trans (if_pos rfl)

theorem stringBody_plain {c : UInt8} (hQuote : c ≠ 0x22) (hBackslash : c ≠ 0x5C)
    (rest : List UInt8) : stringBody (c :: rest) =
      (stringBody rest).map fun (body, rest) => (c :: body, rest) := by
  rw [stringBody.eq_def]
  exact (if_neg hQuote).trans (if_neg hBackslash)

theorem stringBody_shorter {s body rest : List UInt8} (h : stringBody s = some (body, rest)) :
    rest.length < s.length := by
  fun_induction stringBody s generalizing body rest with
  | case1 => cases h
  | case2 tail =>
    cases h
    exact Nat.lt_succ_self _
  | case3 => cases h
  | case4 e tail hQuote ih =>
    obtain ⟨⟨inner, after⟩, hInner, hEq⟩ := Option.map_eq_some_iff.mp h
    cases hEq
    exact (ih hInner).trans (Nat.lt_add_of_pos_right Nat.two_pos)
  | case5 c tail hQuote hBackslash ih =>
    obtain ⟨⟨inner, after⟩, hInner, hEq⟩ := Option.map_eq_some_iff.mp h
    cases hEq
    exact (ih hInner).trans (Nat.lt_succ_self _)

theorem stringBody_append {s body rest : List UInt8} (h : stringBody s = some (body, rest))
    (more : List UInt8) : stringBody (s ++ more) = some (body, rest ++ more) := by
  fun_induction stringBody s generalizing body rest with
  | case1 => cases h
  | case2 tail =>
    cases h
    exact stringBody_quote _
  | case3 => cases h
  | case4 e tail hQuote ih =>
    obtain ⟨⟨inner, after⟩, hInner, hEq⟩ := Option.map_eq_some_iff.mp h
    cases hEq
    rw [List.cons_append, List.cons_append, stringBody_escape]
    exact Option.map_eq_some_iff.mpr ⟨_, ih hInner, rfl⟩
  | case5 c tail hQuote hBackslash ih =>
    obtain ⟨⟨inner, after⟩, hInner, hEq⟩ := Option.map_eq_some_iff.mp h
    cases hEq
    rw [List.cons_append, stringBody_plain hQuote hBackslash]
    exact Option.map_eq_some_iff.mpr ⟨_, ih hInner, rfl⟩

theorem utf16LiteralToUtf8_pos {s output : List UInt8} {length : Nat}
    (h : utf16LiteralToUtf8 s = some (output, length)) : 0 < length := by
  simp only [utf16LiteralToUtf8] at h
  split at h
  · cases h
  split at h
  · cases h
  split at h
  · split at h
    · cases h
    split at h
    · cases h
    · cases h
      decide
  · cases h
    decide

theorem unescape_succ {fuel : Nat} {s : List UInt8} (h : s.length ≤ fuel) :
    unescape (fuel + 1) s = unescape fuel s := by
  induction fuel generalizing s with
  | zero =>
    rw [List.eq_nil_of_length_eq_zero (Nat.le_zero.mp h)]
    rfl
  | succ fuel ih =>
    cases s with
    | nil => rfl
    | cons c rest =>
      have hRest : rest.length ≤ fuel := Nat.le_of_succ_le_succ h
      cases rest with
      | nil => simp only [unescape]
      | cons e after =>
        have hAfter : after.length ≤ fuel := Nat.le_of_succ_le hRest
        have hEscape : (utf16LiteralToUtf8 (c :: e :: after)).bind (fun sequence =>
            (unescape (fuel + 1) ((c :: e :: after).drop sequence.2)).map (sequence.1 ++ ·)) =
            (utf16LiteralToUtf8 (c :: e :: after)).bind fun sequence =>
              (unescape fuel ((c :: e :: after).drop sequence.2)).map (sequence.1 ++ ·) := by
          refine Option.bind_congr fun sequence hSequence => ?_
          have hPos : 0 < sequence.2 := utf16LiteralToUtf8_pos hSequence
          have hDrop : ((c :: e :: after).drop sequence.2).length ≤ fuel := by
            rw [List.length_drop]
            omega
          rw [ih hDrop]
        rw [unescape, ih hRest, ih hAfter, hEscape, unescape]

/-- The bound of `parseString` does not decide anything. -/
theorem unescape_fuel {fuel : Nat} {s : List UInt8} (hFuel : s.length ≤ fuel) :
    unescape fuel s = unescape s.length s := by
  induction hFuel with
  | refl => rfl
  | step hLe ih => rw [unescape_succ hLe, ih]

theorem parseString_eq_some {s value rest : List UInt8} :
    parseString s = some (value, rest) ↔ ∃ text body, s = 0x22 :: text ∧
      stringBody text = some (body, rest) ∧ unescape body.length body = some value := by
  fun_cases parseString s with
  | case1 => exact iff_of_false (fun h => by cases h) fun ⟨_, _, h, _⟩ => by cases h
  | case2 text =>
    simp only [Option.bind_eq_some_iff, Option.map_eq_some_iff, Prod.exists, Prod.mk.injEq,
      List.cons.injEq, true_and]
    constructor
    · rintro ⟨body, after, hBody, read, hRead, rfl, rfl⟩
      exact ⟨text, body, rfl, hBody, hRead⟩
    · rintro ⟨_, body, rfl, hBody, hRead⟩
      exact ⟨body, rest, hBody, value, hRead, rfl, rfl⟩
  | case3 c text hQuote =>
    refine iff_of_false (fun h => by cases h) ?_
    rintro ⟨_, _, hEq, _⟩
    exact hQuote (List.cons.inj hEq).1

theorem parseString_shorter {s value rest : List UInt8} (h : parseString s = some (value, rest)) :
    rest.length < s.length := by
  obtain ⟨text, body, rfl, hBody, -⟩ := parseString_eq_some.mp h
  exact (stringBody_shorter hBody).trans (Nat.lt_succ_self _)

theorem parseString_append {s value rest : List UInt8} (h : parseString s = some (value, rest))
    (more : List UInt8) : parseString (s ++ more) = some (value, rest ++ more) := by
  obtain ⟨text, body, rfl, hBody, hRead⟩ := parseString_eq_some.mp h
  exact parseString_eq_some.mpr ⟨text ++ more, body, rfl, stringBody_append hBody more, hRead⟩

/-! ## One call of `parse_value` -/

/-- What a successful call has found. -/
inductive ValueCase (fuel depth : Nat) : List UInt8 → CJson → List UInt8 → Prop
  | null (rest : List UInt8) : ValueCase fuel depth (literal "null" ++ rest) .null rest
  | false (rest : List UInt8) : ValueCase fuel depth (literal "false" ++ rest) (.bool false) rest
  | true (rest : List UInt8) : ValueCase fuel depth (literal "true" ++ rest) (.bool true) rest
  | string {s text rest : List UInt8} (h : parseString s = some (text, rest)) :
    ValueCase fuel depth s (.string text) rest
  | number {c : UInt8} {s rest : List UInt8} {value : CJson} (hc : c = 0x2D ∨ isDigit c = true)
    (h : parseNumber (c :: s) = some (value, rest)) : ValueCase fuel depth (c :: s) value rest
  | array {s rest : List UInt8} {value : CJson}
    (h : parseArray (parseElements fuel (depth + 1)) depth s = some (value, rest)) :
    ValueCase fuel depth (0x5B :: s) value rest
  | object {s rest : List UInt8} {value : CJson}
    (h : parseObject (parseMembers fuel (depth + 1)) depth s = some (value, rest)) :
    ValueCase fuel depth (0x7B :: s) value rest

theorem parseValue_null (fuel depth : Nat) (rest : List UInt8) :
    parseValue (fuel + 1) depth (literal "null" ++ rest) = some (.null, rest) := by
  rw [parseValue.eq_def]
  exact if_pos (List.prefix_append _ _)

theorem parseValue_false (fuel depth : Nat) (rest : List UInt8) :
    parseValue (fuel + 1) depth (literal "false" ++ rest) = some (.bool false, rest) := by
  rw [parseValue.eq_def]
  exact (if_neg fun h => absurd (List.cons_prefix_cons.mp h).1 (by decide)).trans
    (if_pos (List.prefix_append _ _))

theorem parseValue_true (fuel depth : Nat) (rest : List UInt8) :
    parseValue (fuel + 1) depth (literal "true" ++ rest) = some (.bool true, rest) := by
  rw [parseValue.eq_def]
  exact (if_neg fun h => absurd (List.cons_prefix_cons.mp h).1 (by decide)).trans
    ((if_neg fun h => absurd (List.cons_prefix_cons.mp h).1 (by decide)).trans
      (if_pos (List.prefix_append _ _)))

theorem parseValue_cons (fuel depth : Nat) {c : UInt8}
    (hc : c ≠ 0x6E ∧ c ≠ 0x66 ∧ c ≠ 0x74) (rest : List UInt8) :
    parseValue (fuel + 1) depth (c :: rest) =
      if c = 0x22 then (parseString (c :: rest)).map fun (value, rest) => (.string value, rest)
      else if c = 0x2D ∨ isDigit c = true then parseNumber (c :: rest)
      else if c = 0x5B then parseArray (parseElements fuel (depth + 1)) depth rest
      else if c = 0x7B then parseObject (parseMembers fuel (depth + 1)) depth rest
      else none := by
  rw [parseValue, if_neg, if_neg, if_neg]
  · exact fun h => hc.2.2 (List.cons_prefix_cons.mp h).1.symm
  · exact fun h => hc.2.1 (List.cons_prefix_cons.mp h).1.symm
  · exact fun h => hc.1 (List.cons_prefix_cons.mp h).1.symm

theorem ValueCase.of_parseValue {fuel depth : Nat} {s rest : List UInt8} {value : CJson}
    (h : parseValue (fuel + 1) depth s = some (value, rest)) :
    ValueCase fuel depth s value rest := by
  rw [parseValue.eq_def] at h
  dsimp only at h
  split at h
  · rename_i hNull
    obtain ⟨after, rfl⟩ := hNull
    cases h
    exact .null after
  split at h
  · rename_i hFalse
    obtain ⟨after, rfl⟩ := hFalse
    cases h
    exact .false after
  split at h
  · rename_i hTrue
    obtain ⟨after, rfl⟩ := hTrue
    cases h
    exact .true after
  cases s with
  | nil => cases h
  | cons c s =>
    dsimp only at h
    split at h
    · obtain ⟨⟨text, after⟩, hString, hEq⟩ := Option.map_eq_some_iff.mp h
      cases hEq
      exact .string hString
    split at h
    · rename_i hNumber
      exact .number hNumber h
    split at h
    · rename_i hBracket
      rw [hBracket]
      exact .array h
    split at h
    · rename_i hBrace
      rw [hBrace]
      exact .object h
    · cases h

theorem ValueCase.parseValue {fuel depth : Nat} {s rest : List UInt8} {value : CJson}
    (h : ValueCase fuel depth s value rest) :
    parseValue (fuel + 1) depth s = some (value, rest) := by
  cases h with
  | null => exact parseValue_null fuel depth rest
  | false => exact parseValue_false fuel depth rest
  | true => exact parseValue_true fuel depth rest
  | string h =>
    obtain ⟨text, body, rfl, -, -⟩ := parseString_eq_some.mp h
    rw [parseValue_cons fuel depth (by decide), if_pos rfl, h]
    rfl
  | @number c s rest value hc h =>
    have hLetter : c ≠ 0x6E ∧ c ≠ 0x66 ∧ c ≠ 0x74 ∧ c ≠ 0x22 := by
      refine ⟨?_, ?_, ?_, ?_⟩ <;> rintro rfl <;> revert hc <;> decide
    rw [parseValue_cons fuel depth ⟨hLetter.1, hLetter.2.1, hLetter.2.2.1⟩,
      if_neg hLetter.2.2.2, if_pos hc, h]
  | array h =>
    rw [parseValue_cons fuel depth (by decide), if_neg (by decide), if_neg (by decide),
      if_pos rfl, h]
  | object h =>
    rw [parseValue_cons fuel depth (by decide), if_neg (by decide), if_neg (by decide),
      if_neg (by decide), if_pos rfl, h]

/-! ## Arrays and objects -/

section Bracket

variable {α : Type} {close : UInt8}
  {parseItems parseItems' : List UInt8 → Option (List α × List UInt8)}
  {item : α} {s rest : List UInt8} {items : List α}

theorem parseBracket_eq_some : parseBracket close parseItems s = some (items, rest) ↔
    ∃ c after, skipWhitespace s = c :: after ∧ (c = close ∧ items = [] ∧ rest = after ∨
      c ≠ close ∧ parseItems (c :: after) = some (items, rest)) := by
  unfold parseBracket
  cases skipWhitespace s with
  | nil => exact iff_of_false (fun h => by cases h) fun ⟨_, _, h, _⟩ => by cases h
  | cons c after =>
    dsimp only
    split
    · rename_i hClose
      constructor
      · rintro ⟨⟩
        exact ⟨c, rest, rfl, .inl ⟨hClose, rfl, rfl⟩⟩
      · rintro ⟨_, _, ⟨⟩, ⟨-, rfl, rfl⟩ | ⟨hc, -⟩⟩
        · rfl
        · exact absurd hClose hc
    · rename_i hClose
      constructor
      · intro hRead
        exact ⟨c, after, rfl, .inr ⟨hClose, hRead⟩⟩
      · rintro ⟨_, _, ⟨⟩, ⟨hc, -⟩ | ⟨-, hRead⟩⟩
        · exact absurd hc hClose
        · exact hRead

theorem parseNext_eq_some (hClose : close ≠ 0x2C) :
    parseNext close parseItems item s = some (items, rest) ↔
      ∃ c after, skipWhitespace s = c :: after ∧
        (c = 0x2C ∧ (∃ others, parseItems (skipWhitespace after) = some (others, rest) ∧
            items = item :: others) ∨
          c = close ∧ items = [item] ∧ rest = after) := by
  unfold parseNext
  cases skipWhitespace s with
  | nil => exact iff_of_false (fun h => by cases h) fun ⟨_, _, h, _⟩ => by cases h
  | cons c after =>
    dsimp only
    split
    · rename_i hComma
      rw [Option.map_eq_some_iff]
      constructor
      · rintro ⟨⟨others, _⟩, hRead, ⟨⟩⟩
        exact ⟨c, after, rfl, .inl ⟨hComma, others, hRead, rfl⟩⟩
      · rintro ⟨_, _, ⟨⟩, ⟨-, others, hRead, rfl⟩ | ⟨rfl, -, -⟩⟩
        · exact ⟨_, hRead, rfl⟩
        · exact absurd hComma hClose
    split
    · rename_i hEnd
      constructor
      · rintro ⟨⟩
        exact ⟨c, rest, rfl, .inr ⟨hEnd, rfl, rfl⟩⟩
      · rintro ⟨_, _, ⟨⟩, ⟨hc, -⟩ | ⟨-, rfl, rfl⟩⟩
        · exact absurd hc ‹_›
        · rfl
    · refine iff_of_false (fun h => by cases h) ?_
      rintro ⟨_, _, ⟨⟩, ⟨hc, -⟩ | ⟨hc, -⟩⟩
      · exact absurd hc ‹_›
      · exact absurd hc ‹_›

theorem parseBracket_imp (h : parseBracket close parseItems s = some (items, rest))
    (hItems : ∀ s' read, s'.length ≤ s.length → parseItems s' = some read →
      parseItems' s' = some read) : parseBracket close parseItems' s = some (items, rest) := by
  obtain ⟨c, after, hSkip, hCase⟩ := parseBracket_eq_some.mp h
  have hLength := hSkip ▸ skipWhitespace_length_le s
  exact parseBracket_eq_some.mpr
    ⟨c, after, hSkip, hCase.imp id (And.imp id (hItems _ _ hLength))⟩

theorem parseNext_imp (hClose : close ≠ 0x2C)
    (h : parseNext close parseItems item s = some (items, rest))
    (hItems : ∀ s' read, s'.length < s.length → parseItems s' = some read →
      parseItems' s' = some read) :
    parseNext close parseItems' item s = some (items, rest) := by
  obtain ⟨c, after, hSkip, hCase⟩ := (parseNext_eq_some hClose).mp h
  have hLength := hSkip ▸ skipWhitespace_length_le s
  have hAfter := skipWhitespace_length_le after
  rw [List.length_cons] at hLength
  refine (parseNext_eq_some hClose).mpr ⟨c, after, hSkip, hCase.imp (And.imp id ?_) id⟩
  rintro ⟨others, hRead, hEq⟩
  exact ⟨others, hItems _ _ (by omega) hRead, hEq⟩

theorem parseBracket_shorter (h : parseBracket close parseItems s = some (items, rest))
    (hItems : ∀ s' read, parseItems s' = some read → read.2.length < s'.length) :
    rest.length < s.length := by
  obtain ⟨c, after, hSkip, hCase⟩ := parseBracket_eq_some.mp h
  have hLength := hSkip ▸ skipWhitespace_length_le s
  rcases hCase with ⟨-, -, rfl⟩ | ⟨-, hRead⟩
  · exact hLength
  · exact Nat.lt_of_lt_of_le (hItems _ _ hRead) hLength

theorem parseNext_shorter (hClose : close ≠ 0x2C)
    (h : parseNext close parseItems item s = some (items, rest))
    (hItems : ∀ s' read, parseItems s' = some read → read.2.length < s'.length) :
    rest.length < s.length := by
  obtain ⟨c, after, hSkip, hCase⟩ := (parseNext_eq_some hClose).mp h
  have hLength := hSkip ▸ skipWhitespace_length_le s
  have hAfter := skipWhitespace_length_le after
  rw [List.length_cons] at hLength
  rcases hCase with ⟨-, others, hRead, -⟩ | ⟨-, -, rfl⟩
  · have hRest : rest.length < (skipWhitespace after).length := hItems _ _ hRead
    omega
  · exact hLength

/-- A loop that begins at a byte that is no blank and does not look at the rest. -/
def Extends (parseItems : List UInt8 → Option (List α × List UInt8)) : Prop :=
  ∀ s items rest, parseItems s = some (items, rest) →
    (∃ c after, s = c :: after ∧ 0x20 < c) ∧
      ∀ more, parseItems (s ++ more) = some (items, rest ++ more)

theorem parseBracket_append (hBracket : 0x20 < close) (hItems : Extends parseItems)
    (h : parseBracket close parseItems s = some (items, rest)) (more : List UInt8) :
    parseBracket close parseItems (s ++ more) = some (items, rest ++ more) := by
  rw [parseBracket_eq_some] at h ⊢
  obtain ⟨c, after, hSkip, ⟨rfl, rfl, rfl⟩ | ⟨hc, hRead⟩⟩ := h
  · exact ⟨c, _, skipWhitespace_append hSkip hBracket more, .inl ⟨rfl, rfl, rfl⟩⟩
  · obtain ⟨⟨d, tail, hHead, hd⟩, hMore⟩ := hItems _ _ _ hRead
    cases hHead
    exact ⟨c, _, skipWhitespace_append hSkip hd more, .inr ⟨hc, hMore more⟩⟩

theorem parseNext_append (hClose : close ≠ 0x2C) (hBracket : 0x20 < close)
    (hItems : Extends parseItems) (h : parseNext close parseItems item s = some (items, rest))
    (more : List UInt8) :
    parseNext close parseItems item (s ++ more) = some (items, rest ++ more) := by
  rw [parseNext_eq_some hClose] at h ⊢
  obtain ⟨c, after, hSkip, ⟨rfl, others, hRead, rfl⟩ | ⟨rfl, rfl, rfl⟩⟩ := h
  · obtain ⟨⟨d, tail, hHead, hd⟩, hMore⟩ := hItems _ _ _ hRead
    refine ⟨0x2C, _, skipWhitespace_append hSkip (by decide) more, .inl ⟨rfl, others, ?_, rfl⟩⟩
    rw [skipWhitespace_append hHead hd more, ← List.cons_append, ← hHead]
    exact hMore more
  · exact ⟨c, _, skipWhitespace_append hSkip hBracket more, .inr ⟨rfl, rfl, rfl⟩⟩

/-- The byte behind an item is no part of a number. -/
theorem parseNext_end (hClose : close ≠ 0x2C) (hEnd : isNumberByte close = false)
    (h : parseNext close parseItems item s = some (items, rest)) :
    ∃ b ∈ s, isNumberByte b = false := by
  obtain ⟨c, after, hSkip, hCase⟩ := (parseNext_eq_some hClose).mp h
  have hMem : c ∈ s := (skipWhitespace_suffix s).mem (hSkip ▸ List.mem_cons_self)
  rcases hCase with ⟨rfl, -⟩ | ⟨rfl, -, -⟩
  · exact ⟨0x2C, hMem, by decide⟩
  · exact ⟨c, hMem, hEnd⟩

end Bracket

section Calls

variable {fuel depth : Nat} {s rest : List UInt8}

theorem nested_eq_some {α : Type} {read : Option (α × List UInt8)} {f : α → CJson}
    {value : CJson} :
    (if CJSON_NESTING_LIMIT ≤ depth then none else read.map (Prod.map f id)) =
      some (value, rest) ↔
        depth < CJSON_NESTING_LIMIT ∧ ∃ items, read = some (items, rest) ∧ value = f items := by
  split
  · rename_i hDepth
    exact iff_of_false (fun h => by cases h) fun h => Nat.not_lt.mpr hDepth h.1
  · rename_i hDepth
    rw [and_iff_right (Nat.not_le.mp hDepth), Option.map_eq_some_iff]
    constructor
    · rintro ⟨⟨items, _⟩, hRead, ⟨⟩⟩
      exact ⟨items, hRead, rfl⟩
    · rintro ⟨items, hRead, rfl⟩
      exact ⟨_, hRead, rfl⟩

theorem parseArray_eq_some {parseElements : List UInt8 → Option (List CJson × List UInt8)}
    {value : CJson} : parseArray parseElements depth s = some (value, rest) ↔
      depth < CJSON_NESTING_LIMIT ∧
        ∃ items, parseBracket 0x5D parseElements s = some (items, rest) ∧
          value = .array items :=
  nested_eq_some

theorem parseObject_eq_some
    {parseMembers : List UInt8 → Option (List (List UInt8 × CJson) × List UInt8)}
    {value : CJson} : parseObject parseMembers depth s = some (value, rest) ↔
      depth < CJSON_NESTING_LIMIT ∧
        ∃ members, parseBracket 0x7D parseMembers s = some (members, rest) ∧
          value = .object members :=
  nested_eq_some

theorem parseElements_eq_some {items : List CJson} :
    parseElements (fuel + 1) depth s = some (items, rest) ↔
      ∃ item after, parseValue fuel depth s = some (item, after) ∧
        parseNext 0x5D (parseElements fuel depth) item after = some (items, rest) := by
  rw [parseElements, Option.bind_eq_some_iff, Prod.exists]

theorem parseMembers_eq_some {members : List (List UInt8 × CJson)} :
    parseMembers (fuel + 1) depth s = some (members, rest) ↔
      ∃ name colon start item after, parseString s = some (name, colon) ∧
        skipWhitespace colon = 0x3A :: start ∧
          parseValue fuel depth (skipWhitespace start) = some (item, after) ∧
            parseNext 0x7D (parseMembers fuel depth) (name, item) after =
              some (members, rest) := by
  rw [parseMembers, Option.bind_eq_some_iff]
  constructor
  · rintro ⟨⟨name, colon⟩, hName, hRead⟩
    dsimp only at hRead
    split at hRead
    · cases hRead
    rename_i c start hSkip
    split at hRead
    · rename_i hColon
      obtain ⟨⟨item, after⟩, hItem, hNext⟩ := Option.bind_eq_some_iff.mp hRead
      exact ⟨name, colon, start, item, after, hName, hColon ▸ hSkip, hItem, hNext⟩
    · cases hRead
  · rintro ⟨name, colon, start, item, after, hName, hSkip, hItem, hNext⟩
    refine ⟨(name, colon), hName, ?_⟩
    dsimp only
    rw [hSkip]
    exact (if_pos rfl).trans (Option.bind_eq_some_iff.mpr ⟨_, hItem, hNext⟩)

end Calls

/-! ## A proper rest -/

theorem parse_shorter (fuel : Nat) :
    (∀ depth s read, parseValue fuel depth s = some read → read.2.length < s.length) ∧
    (∀ depth s read, parseElements fuel depth s = some read → read.2.length < s.length) ∧
    ∀ depth s read, parseMembers fuel depth s = some read → read.2.length < s.length := by
  induction fuel with
  | zero =>
    refine ⟨?_, ?_, ?_⟩ <;>
      · intro depth s read h
        cases h
  | succ fuel ih =>
    obtain ⟨ihValue, ihElements, ihMembers⟩ := ih
    refine ⟨?_, ?_, ?_⟩
    · intro depth s read h
      obtain ⟨value, rest⟩ := read
      cases ValueCase.of_parseValue h with
      | null | false | true =>
        rw [List.length_append]
        exact Nat.lt_add_of_pos_left (by decide)
      | string h => exact parseString_shorter h
      | number hc h => exact parseNumber_shorter h
      | array h =>
        obtain ⟨-, items, hItems, -⟩ := parseArray_eq_some.mp h
        exact Nat.lt_succ_of_lt (parseBracket_shorter hItems (ihElements (depth + 1)))
      | object h =>
        obtain ⟨-, members, hMembers, -⟩ := parseObject_eq_some.mp h
        exact Nat.lt_succ_of_lt (parseBracket_shorter hMembers (ihMembers (depth + 1)))
    · intro depth s read h
      obtain ⟨item, after, hItem, hNext⟩ := parseElements_eq_some.mp h
      exact (parseNext_shorter (by decide) hNext (ihElements depth)).trans (ihValue _ _ _ hItem)
    · intro depth s read h
      obtain ⟨name, colon, start, item, after, hName, hSkip, hItem, hNext⟩ :=
        parseMembers_eq_some.mp h
      have hRest := parseNext_shorter (by decide) hNext (ihMembers depth)
      have hAfter : after.length < (skipWhitespace start).length := ihValue _ _ _ hItem
      have hStart := skipWhitespace_length_le start
      have hColon := hSkip ▸ skipWhitespace_length_le colon
      have hString := parseString_shorter hName
      rw [List.length_cons] at hColon
      omega

/-! ## Enough calls -/

section Fuel

variable {fuel fuel' depth : Nat} {s rest : List UInt8}

theorem ValueCase.imp {value : CJson} (h : ValueCase fuel depth s value rest)
    (hElements : ∀ s' read, s'.length < s.length →
      parseElements fuel (depth + 1) s' = some read →
        parseElements fuel' (depth + 1) s' = some read)
    (hMembers : ∀ s' read, s'.length < s.length →
      parseMembers fuel (depth + 1) s' = some read →
        parseMembers fuel' (depth + 1) s' = some read) : ValueCase fuel' depth s value rest := by
  cases h with
  | null => exact .null rest
  | false => exact .false rest
  | true => exact .true rest
  | string h => exact .string h
  | number hc h => exact .number hc h
  | array h =>
    obtain ⟨hDepth, items, hItems, hEq⟩ := parseArray_eq_some.mp h
    exact .array (parseArray_eq_some.mpr ⟨hDepth, items, parseBracket_imp hItems
      fun s' read hs => hElements s' read (Nat.lt_succ_of_le hs), hEq⟩)
  | object h =>
    obtain ⟨hDepth, members, hItems, hEq⟩ := parseObject_eq_some.mp h
    exact .object (parseObject_eq_some.mpr ⟨hDepth, members, parseBracket_imp hItems
      fun s' read hs => hMembers s' read (Nat.lt_succ_of_le hs), hEq⟩)

theorem parseElements_imp {read : List CJson × List UInt8}
    (h : parseElements (fuel + 1) depth s = some read)
    (hValue : ∀ s' read, s'.length ≤ s.length → parseValue fuel depth s' = some read →
      parseValue fuel' depth s' = some read)
    (hElements : ∀ s' read, s'.length < s.length → parseElements fuel depth s' = some read →
      parseElements fuel' depth s' = some read) :
    parseElements (fuel' + 1) depth s = some read := by
  obtain ⟨item, after, hItem, hNext⟩ := parseElements_eq_some.mp h
  have hAfter : after.length < s.length := (parse_shorter fuel).1 _ _ _ hItem
  exact parseElements_eq_some.mpr ⟨item, after, hValue _ _ (Nat.le_refl _) hItem,
    parseNext_imp (by decide) hNext fun s' read hs => hElements s' read (hs.trans hAfter)⟩

theorem parseMembers_imp {read : List (List UInt8 × CJson) × List UInt8}
    (h : parseMembers (fuel + 1) depth s = some read)
    (hValue : ∀ s' read, s'.length ≤ s.length → parseValue fuel depth s' = some read →
      parseValue fuel' depth s' = some read)
    (hMembers : ∀ s' read, s'.length < s.length → parseMembers fuel depth s' = some read →
      parseMembers fuel' depth s' = some read) :
    parseMembers (fuel' + 1) depth s = some read := by
  obtain ⟨name, colon, start, item, after, hName, hSkip, hItem, hNext⟩ :=
    parseMembers_eq_some.mp h
  have hAfter : after.length < (skipWhitespace start).length := (parse_shorter fuel).1 _ _ _ hItem
  have hStart := skipWhitespace_length_le start
  have hColon := hSkip ▸ skipWhitespace_length_le colon
  have hString := parseString_shorter hName
  rw [List.length_cons] at hColon
  exact parseMembers_eq_some.mpr ⟨name, colon, start, item, after, hName, hSkip,
    hValue _ _ (by omega) hItem,
    parseNext_imp (by decide) hNext fun s' read hs => hMembers s' read (by omega)⟩

/-- More calls do not hurt. -/
theorem parse_succ (fuel : Nat) :
    (∀ depth s read, parseValue fuel depth s = some read →
      parseValue (fuel + 1) depth s = some read) ∧
    (∀ depth s read, parseElements fuel depth s = some read →
      parseElements (fuel + 1) depth s = some read) ∧
    ∀ depth s read, parseMembers fuel depth s = some read →
      parseMembers (fuel + 1) depth s = some read := by
  induction fuel with
  | zero =>
    refine ⟨?_, ?_, ?_⟩ <;>
      · intro depth s read h
        cases h
  | succ fuel ih =>
    obtain ⟨ihValue, ihElements, ihMembers⟩ := ih
    refine ⟨?_, ?_, ?_⟩
    · intro depth s read h
      exact ((ValueCase.of_parseValue h).imp (fun s' read _ => ihElements _ s' read)
        fun s' read _ => ihMembers _ s' read).parseValue
    · intro depth s read h
      exact parseElements_imp h (fun s' read _ => ihValue _ s' read)
        fun s' read _ => ihElements _ s' read
    · intro depth s read h
      exact parseMembers_imp h (fun s' read _ => ihValue _ s' read)
        fun s' read _ => ihMembers _ s' read

/-- Two calls for every byte suffice. -/
theorem parse_of_succ (fuel : Nat) :
    (∀ depth s read, 2 * s.length < fuel → parseValue (fuel + 1) depth s = some read →
      parseValue fuel depth s = some read) ∧
    (∀ depth s read, 2 * s.length + 1 < fuel → parseElements (fuel + 1) depth s = some read →
      parseElements fuel depth s = some read) ∧
    ∀ depth s read, 2 * s.length + 1 < fuel → parseMembers (fuel + 1) depth s = some read →
      parseMembers fuel depth s = some read := by
  induction fuel with
  | zero =>
    refine ⟨?_, ?_, ?_⟩ <;>
      · intro depth s read h
        cases h
  | succ fuel ih =>
    obtain ⟨ihValue, ihElements, ihMembers⟩ := ih
    refine ⟨?_, ?_, ?_⟩
    · intro depth s read hFuel h
      exact ((ValueCase.of_parseValue h).imp (fun s' read hs => ihElements _ s' read (by omega))
        fun s' read hs => ihMembers _ s' read (by omega)).parseValue
    · intro depth s read hFuel h
      exact parseElements_imp h (fun s' read hs => ihValue _ s' read (by omega))
        fun s' read hs => ihElements _ s' read (by omega)
    · intro depth s read hFuel h
      exact parseMembers_imp h (fun s' read hs => ihValue _ s' read (by omega))
        fun s' read hs => ihMembers _ s' read (by omega)

theorem parseValue_mono {read : CJson × List UInt8} (h : parseValue fuel depth s = some read)
    (hFuel : fuel ≤ fuel') : parseValue fuel' depth s = some read := by
  induction hFuel with
  | refl => exact h
  | step _ ih => exact (parse_succ _).1 _ _ _ ih

/-- The bound of `parseWithLength` does not decide anything. -/
theorem parseValue_fuel (hFuel : enough s ≤ fuel) :
    parseValue fuel depth s = parseValue (enough s) depth s := by
  induction hFuel with
  | refl => rfl
  | @step fuel hLe ih =>
    rw [← ih]
    exact Option.ext fun read => ⟨(parse_of_succ fuel).1 depth s read hLe,
      (parse_succ fuel).1 depth s read⟩

end Fuel

/-! ## The bytes behind the value -/

theorem parseValue_head {fuel depth : Nat} {s rest : List UInt8} {value : CJson}
    (h : parseValue fuel depth s = some (value, rest)) :
    ∃ c after, s = c :: after ∧ 0x20 < c ∧ c < 0x80 := by
  cases fuel with
  | zero => cases h
  | succ fuel =>
    cases ValueCase.of_parseValue h with
    | null rest | false rest | true rest => exact ⟨_, _, rfl, by decide, by decide⟩
    | string h =>
      obtain ⟨text, -, rfl, -, -⟩ := parseString_eq_some.mp h
      exact ⟨_, _, rfl, by decide, by decide⟩
    | number hc h =>
      refine ⟨_, _, rfl, ?_⟩
      rcases hc with rfl | hDigit
      · exact ⟨by decide, by decide⟩
      · have hRange := of_decide_eq_true hDigit
        exact ⟨lt_of_lt_of_le (b := 0x30) (by decide) hRange.1,
          lt_of_le_of_lt (b := 0x39) hRange.2 (by decide)⟩
    | array h | object h => exact ⟨_, _, rfl, by decide, by decide⟩

theorem parse_append (fuel : Nat) :
    (∀ depth s value rest, parseValue fuel depth s = some (value, rest) →
      (∀ text, value = .number text → ∃ b ∈ rest, isNumberByte b = false) →
        ∀ more, parseValue fuel depth (s ++ more) = some (value, rest ++ more)) ∧
    (∀ depth, Extends (parseElements fuel depth)) ∧ ∀ depth, Extends (parseMembers fuel depth) := by
  induction fuel with
  | zero =>
    exact ⟨fun _ _ _ _ h => (by cases h), fun _ _ _ _ h => (by cases h),
      fun _ _ _ _ h => (by cases h)⟩
  | succ fuel ih =>
    obtain ⟨ihValue, ihElements, ihMembers⟩ := ih
    refine ⟨?_, ?_, ?_⟩
    · intro depth s value rest h hEnd more
      refine ValueCase.parseValue ?_
      cases ValueCase.of_parseValue h with
      | null =>
        rw [List.append_assoc]
        exact .null _
      | false =>
        rw [List.append_assoc]
        exact .false _
      | true =>
        rw [List.append_assoc]
        exact .true _
      | string h => exact .string (parseString_append h more)
      | number hc h =>
        obtain ⟨b, hb, hByte⟩ := hEnd _ (parseNumber_eq_some.mp h).2.1
        exact .number hc (parseNumber_append h hb hByte more)
      | array h =>
        obtain ⟨hDepth, items, hItems, hEq⟩ := parseArray_eq_some.mp h
        exact .array (parseArray_eq_some.mpr
          ⟨hDepth, items, parseBracket_append (by decide) (ihElements _) hItems more, hEq⟩)
      | object h =>
        obtain ⟨hDepth, members, hItems, hEq⟩ := parseObject_eq_some.mp h
        exact .object (parseObject_eq_some.mpr
          ⟨hDepth, members, parseBracket_append (by decide) (ihMembers _) hItems more, hEq⟩)
    · intro depth s items rest h
      obtain ⟨item, after, hItem, hNext⟩ := parseElements_eq_some.mp h
      obtain ⟨c, tail, hHead, hc, -⟩ := parseValue_head hItem
      refine ⟨⟨c, tail, hHead, hc⟩, fun more => parseElements_eq_some.mpr ⟨item, after ++ more,
        ihValue _ _ _ _ hItem ?_ more,
        parseNext_append (by decide) (by decide) (ihElements depth) hNext more⟩⟩
      -- A number ends here whatever follows: a comma or the bracket stands behind it.
      exact fun _ _ => parseNext_end (by decide) (by decide) hNext
    · intro depth s members rest h
      obtain ⟨name, colon, start, item, after, hName, hSkip, hItem, hNext⟩ :=
        parseMembers_eq_some.mp h
      obtain ⟨text, -, rfl, -, -⟩ := parseString_eq_some.mp hName
      obtain ⟨c, tail, hHead, hc, -⟩ := parseValue_head hItem
      refine ⟨⟨_, _, rfl, by decide⟩, fun more => parseMembers_eq_some.mpr
        ⟨name, colon ++ more, start ++ more, item, after ++ more, parseString_append hName more,
          skipWhitespace_append hSkip (by decide) more, ?_,
          parseNext_append (by decide) (by decide) (ihMembers depth) hNext more⟩⟩
      rw [skipWhitespace_append hHead hc more, ← List.cons_append, ← hHead]
      exact ihValue _ _ _ _ hItem (fun _ _ => parseNext_end (by decide) (by decide) hNext) more

theorem skipUtf8Bom_append {s : List UInt8} {c : UInt8} {rest : List UInt8}
    (h : skipWhitespace (skipUtf8Bom s) = c :: rest) (hc : c < 0x80) (more : List UInt8) :
    skipUtf8Bom (s ++ more) = skipUtf8Bom s ++ more := by
  unfold skipUtf8Bom at h ⊢
  split at h
  · rename_i hBom
    have hLong : 3 ≤ s.length := by omega
    rw [if_pos hBom, if_pos, List.drop_append_of_le_length hLong]
    rw [List.length_append, List.take_append_of_le_length hLong]
    exact ⟨by omega, hBom.2⟩
  · rename_i hPlain
    rw [if_neg hPlain, if_neg]
    rintro ⟨hLength, hBom⟩
    -- The text would begin with 0xEF, which is neither a blank nor below 0x80.
    cases s with
    | nil => cases h
    | cons d tail =>
      have hd : d = 0xEF := (List.cons.inj hBom).1
      rw [hd, skipWhitespace_of_gt (by decide)] at h
      rw [← (List.cons.inj h).1] at hc
      exact absurd hc (by decide)

/-- `cJSON_ParseWithLength` finds the same value when other bytes follow it. -/
theorem parseWithLength_append {s : List UInt8} {value : CJson}
    (h : parseWithLength s = some value) (hNumber : ∀ text, value ≠ .number text)
    (more : List UInt8) : parseWithLength (s ++ more) = some value := by
  obtain ⟨⟨_, rest⟩, hValue, rfl⟩ := Option.map_eq_some_iff.mp h
  obtain ⟨c, tail, hHead, hBlank, hAscii⟩ := parseValue_head hValue
  have hStart : skipWhitespace (skipUtf8Bom (s ++ more)) =
      skipWhitespace (skipUtf8Bom s) ++ more := by
    rw [skipUtf8Bom_append hHead hAscii, hHead]
    exact skipWhitespace_append hHead hBlank more
  have hMore := (parse_append _).1 _ _ _ _ hValue (fun text hEq => absurd hEq (hNumber text)) more
  rw [parseWithLength, hStart, parseValue_mono hMore]
  · rfl
  · rw [enough, enough, List.length_append]
    omega

end CJson

end FcomGateway
