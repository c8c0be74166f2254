import Mathlib.Data.UInt
import FcomGateway.Library.ByteMemory
import FcomGateway.Library.HexText

/-! # Identifiers of requests

`uuid_unparse` prints the sixteen bytes of an identifier as digits without hyphens, `uuid_parse`
reads groups of digits with hyphens between them. A text is the memory from its first byte on,
with the NUL that ends it and whatever lies behind.
-/

namespace FcomGateway

open ByteMemory HexText

structure Uuid where
  bytes : List UInt8
  size : bytes.length = 16
  deriving DecidableEq, Repr

def UUID_STR_LEN : Nat := 37

/-! ## Printing -/

/-- `random` is what `esp_fill_random` gives; the version and the variant are put in. -/
def uuidGenerate (random : Uuid) : Uuid where
  bytes := (random.bytes.modify 6 fun b => 0x40 ||| (b &&& 0xF)).modify 8 fun b =>
    (0x80 ||| b) &&& ~~~ 0x40
  size := by rw [List.length_modify, List.length_modify, random.size]

/-- `snprintf` leaves room for the NUL. -/
def uuidUnparse (u : Uuid) : List UInt8 := (hexText u.bytes).take (UUID_STR_LEN - 1)

/-! ## Reading -/

def unhexChar (s : UInt8) : UInt8 :=
  if 0x30 ≤ s ∧ s ≤ 0x39 then s - 0x30
  else if 0x41 ≤ s ∧ s ≤ 0x46 then s - 0x41 + 0xA
  else if 0x61 ≤ s ∧ s ≤ 0x69 then s - 0x61 + 0xA
  else 0xFF

/-- What a function returns and the bytes that it has stored one behind the other. -/
structure Unhexed where
  status : Int
  stored : List UInt8
  deriving DecidableEq, Repr

/-- The next function runs if the one before it returned 0, else the result is -1. -/
def Unhexed.andThen (first next : Unhexed) : Unhexed :=
  if first.status ≠ 0 then ⟨-1, first.stored⟩ else ⟨next.status, first.stored ++ next.stored⟩

/-- The digits from position `p` on; `s_len` is twice the number of bytes. -/
def unhex (text : Nat → UInt8) (p : Nat) : Nat → Unhexed
  | 0 => ⟨0, []⟩
  | bytes + 1 =>
    let h := unhexChar (text p)
    let l := unhexChar (text (p + 1))
    if 0xFF = h ∨ 0xFF = l then ⟨-1, []⟩
    else Unhexed.andThen ⟨0, [(h <<< 4) ||| (l &&& 0xF)]⟩ (unhex text (p + 2) bytes)

/-- The groups behind the first one, each with the hyphen before it. -/
def uuidGroups (text : Nat → UInt8) : Nat → List Nat → Unhexed
  | _, [] => ⟨0, []⟩
  | p, bytes :: groups =>
    if 0x2D ≠ text p then ⟨-1, []⟩
    else (unhex text (p + 1) bytes).andThen (uuidGroups text (p + 1 + 2 * bytes) groups)

def uuidParse (text : Nat → UInt8) : Unhexed :=
  (unhex text 0 4).andThen (uuidGroups text 8 [2, 2, 2, 6])

/-! ## The grammar -/

def uuidDigits (text : Nat → UInt8) : List UInt8 :=
  window text 0 8 ++ window text 9 4 ++ window text 14 4 ++ window text 19 4 ++ window text 24 12

def HasHyphens (text : Nat → UInt8) : Prop :=
  text 8 = 0x2D ∧ text 13 = 0x2D ∧ text 18 = 0x2D ∧ text 23 = 0x2D

/-- Groups of 8, 4, 4, 4 and 12 digits with hyphens between them. -/
def UuidText (text : Nat → UInt8) : Prop :=
  HasHyphens text ∧ ∀ c ∈ uuidDigits text, IsHexDigit c

/-- The parser accepts the grammar and nothing else, stores the values of the digits, and rejects
every other character in the place of a digit. -/
structure UuidGrammarLaw (text : Nat → UInt8) : Prop where
  accepts : (uuidParse text).status = 0 ↔ UuidText text
  values : (uuidParse text).status = 0 →
    (uuidParse text).stored.map UInt8.toNat = hexBytes (uuidDigits text)
  rejects : ∀ c ∈ uuidDigits text, ¬ IsHexDigit c → (uuidParse text).status = -1

def IsWideDigit (c : UInt8) : Prop := 0x67 ≤ c ∧ c ≤ 0x69

/-- The groups, in which some letters from `g` to `i` stand for digits. -/
def WideUuidText (text : Nat → UInt8) : Prop :=
  HasHyphens text ∧ (∀ c ∈ uuidDigits text, IsHexDigit c ∨ IsWideDigit c) ∧
    ∃ c ∈ uuidDigits text, IsWideDigit c

/-! ## The functions one by one -/

/-- A function returns 0 and stores these bytes, or it returns -1. -/
structure Unhexed.Reads (r : Unhexed) (accepted : Prop) (bytes : List UInt8) : Prop where
  zero : accepted → r = ⟨0, bytes⟩
  minus : ¬ accepted → r.status = -1

section Reads

variable {first next : Unhexed} {accepted accepted' : Prop} {bytes bytes' : List UInt8}

theorem Unhexed.Reads.status_iff (h : first.Reads accepted bytes) :
    first.status = 0 ↔ accepted := by
  constructor
  · intro hZero
    by_contra hRejected
    rw [h.minus hRejected] at hZero
    cases hZero
  · intro hAccepted
    rw [h.zero hAccepted]

theorem Unhexed.Reads.congr (h : first.Reads accepted bytes) (hAccepted : accepted ↔ accepted')
    (hBytes : bytes = bytes') : first.Reads accepted' bytes' := by
  rwa [← propext hAccepted, ← hBytes]

theorem Unhexed.Reads.andThen (h : first.Reads accepted bytes)
    (h' : next.Reads accepted' bytes') :
    (first.andThen next).Reads (accepted ∧ accepted') (bytes ++ bytes') := by
  rw [Unhexed.andThen]
  split
  · rename_i hStatus
    rw [Ne, h.status_iff] at hStatus
    exact ⟨fun hBoth => absurd hBoth.1 hStatus, fun _ => rfl⟩
  · rename_i hStatus
    rw [Ne, not_not, h.status_iff] at hStatus
    rw [h.zero hStatus]
    refine ⟨fun hBoth => ?_, fun hRejected => h'.minus fun hNext => hRejected ⟨hStatus, hNext⟩⟩
    rw [h'.zero hBoth.2]

end Reads

def combined : List UInt8 → List UInt8
  | h :: l :: rest => ((unhexChar h <<< 4) ||| (unhexChar l &&& 0xF)) :: combined rest
  | _ => []

theorem window_pair (text : Nat → UInt8) (p bytes : Nat) : window text p (2 * (bytes + 1)) =
    text p :: text (p + 1) :: window text (p + 2) (2 * bytes) := by
  rw [Nat.mul_succ, window_succ, window_succ]

theorem unhex_reads (text : Nat → UInt8) (p bytes : Nat) :
    (unhex text p bytes).Reads (∀ c ∈ window text p (2 * bytes), unhexChar c ≠ 0xFF)
      (combined (window text p (2 * bytes))) := by
  induction bytes generalizing p with
  | zero => exact ⟨fun _ => rfl, fun h => absurd (List.forall_mem_nil _) h⟩
  | succ bytes ih =>
    rw [window_pair, List.forall_mem_cons, List.forall_mem_cons, combined, ← and_assoc, unhex]
    split
    · rename_i hInvalid
      refine ⟨fun hValid => ?_, fun _ => rfl⟩
      rcases hInvalid with hHigh | hLow
      · exact absurd hHigh.symm hValid.1.1
      · exact absurd hLow.symm hValid.1.2
    · rename_i hValid
      rw [not_or] at hValid
      have hStored : Unhexed.Reads ⟨0, [(unhexChar (text p) <<< 4) |||
          (unhexChar (text (p + 1)) &&& 0xF)]⟩
          (unhexChar (text p) ≠ 0xFF ∧ unhexChar (text (p + 1)) ≠ 0xFF) _ :=
        ⟨fun _ => rfl, fun h => absurd ⟨Ne.symm hValid.1, Ne.symm hValid.2⟩ h⟩
      exact hStored.andThen (ih (p + 2))

theorem uuidGroups_nil_reads (text : Nat → UInt8) (p : Nat) :
    (uuidGroups text p []).Reads True [] :=
  ⟨fun _ => rfl, fun h => absurd trivial h⟩

theorem uuidGroups_cons_reads {text : Nat → UInt8} (p bytes : Nat) {groups : List Nat}
    {accepted : Prop} {stored : List UInt8}
    (h : (uuidGroups text (p + 1 + 2 * bytes) groups).Reads accepted stored) :
    (uuidGroups text p (bytes :: groups)).Reads
      (text p = 0x2D ∧ (∀ c ∈ window text (p + 1) (2 * bytes), unhexChar c ≠ 0xFF) ∧ accepted)
      (combined (window text (p + 1) (2 * bytes)) ++ stored) := by
  rw [uuidGroups]
  split
  · rename_i hOther
    exact ⟨fun hBoth => absurd hBoth.1.symm hOther, fun _ => rfl⟩
  · rename_i hHyphen
    rw [Ne, not_not] at hHyphen
    have hGroup := (unhex_reads text (p + 1) bytes).andThen h
    exact ⟨fun hBoth => hGroup.zero hBoth.2,
      fun hRejected => hGroup.minus fun hRest => hRejected ⟨hHyphen.symm, hRest⟩⟩

theorem combined_window (text : Nat → UInt8) (p bytes : Nat) (rest : List UInt8) :
    combined (window text p (2 * bytes) ++ rest) =
      combined (window text p (2 * bytes)) ++ combined rest := by
  induction bytes generalizing p with
  | zero => rfl
  | succ bytes ih =>
    rw [window_pair, List.cons_append, List.cons_append, combined, combined, ih,
      List.cons_append]

theorem uuidParse_reads (text : Nat → UInt8) :
    (uuidParse text).Reads (HasHyphens text ∧ ∀ c ∈ uuidDigits text, unhexChar c ≠ 0xFF)
      (combined (uuidDigits text)) := by
  have hTail := uuidGroups_cons_reads 23 6 (uuidGroups_nil_reads text 36)
  have hGroups := uuidGroups_cons_reads 8 2 (uuidGroups_cons_reads 13 2
    (uuidGroups_cons_reads 18 2 hTail))
  refine ((unhex_reads text 0 4).andThen hGroups).congr ?_ ?_
  · simp only [HasHyphens, uuidDigits, List.forall_mem_append]
    tauto
  · simp only [uuidDigits, List.append_assoc, List.append_nil]
    change _ = combined (window text 0 (2 * 4) ++ (window text 9 (2 * 2) ++
      (window text 14 (2 * 2) ++ (window text 19 (2 * 2) ++ window text 24 (2 * 6)))))
    rw [combined_window, combined_window, combined_window, combined_window]

/-! ## Digits -/

theorem unhexChar_digit (c : UInt8) :
    (unhexChar c ≠ 0xFF ↔ IsHexDigit c ∨ IsWideDigit c) ∧
      (IsHexDigit c → (unhexChar c).toNat = hexValue c ∧ ¬ IsWideDigit c) := by
  revert c
  unfold IsWideDigit
  exact forall_byte (by decide +kernel)

/-- The parser takes the letters up to `i` for digits. -/
theorem unhexChar_ne_iff (c : UInt8) : unhexChar c ≠ 0xFF ↔ IsHexDigit c ∨ IsWideDigit c :=
  (unhexChar_digit c).1

theorem unhexChar_value {c : UInt8} (h : IsHexDigit c) :
    (unhexChar c).toNat = hexValue c ∧ ¬ IsWideDigit c :=
  (unhexChar_digit c).2 h

theorem combine_value {h l : UInt8} (hHigh : h.toNat < 16) (hLow : l.toNat < 16) :
    ((h <<< 4) ||| (l &&& 0xF)).toNat = 16 * h.toNat + l.toNat := by
  have allValues : ∀ a b : Fin 16, ((UInt8.ofNat a <<< 4) ||| (UInt8.ofNat b &&& 0xF)).toNat =
      16 * a.val + b.val := by decide +kernel
  have hValue := allValues ⟨h.toNat, hHigh⟩ ⟨l.toNat, hLow⟩
  rwa [UInt8.ofNat_toNat, UInt8.ofNat_toNat] at hValue

theorem combined_value {digits : List UInt8} (h : ∀ c ∈ digits, IsHexDigit c) :
    (combined digits).map UInt8.toNat = hexBytes digits := by
  fun_induction combined digits with
  | case1 high low rest ih =>
    rw [List.forall_mem_cons, List.forall_mem_cons] at h
    obtain ⟨hHigh, hLow, hRest⟩ := h
    have hHighValue := (unhexChar_value hHigh).1
    have hLowValue := (unhexChar_value hLow).1
    have hHighSmall := (value_hexDigit hHigh).1
    have hLowSmall := (value_hexDigit hLow).1
    rw [List.map_cons, hexBytes, ih hRest, combine_value (by omega) (by omega), hHighValue,
      hLowValue]
  | case2 digits hShort =>
    cases digits with
    | nil => rfl
    | cons high rest =>
      cases rest with
      | nil => rfl
      | cons low rest => exact (hShort high low rest rfl).elim

theorem uuidDigits_length (text : Nat → UInt8) : (uuidDigits text).length = 32 := by
  simp [uuidDigits]

theorem combined_length (digits : List UInt8) :
    (combined digits).length = digits.length / 2 := by
  fun_induction combined digits with
  | case1 high low rest ih =>
    rw [List.length_cons, ih, List.length_cons, List.length_cons]
    omega
  | case2 digits hShort =>
    cases digits with
    | nil => rfl
    | cons high rest =>
      cases rest with
      | nil => rw [List.length_singleton, List.length_nil]
      | cons low rest => exact (hShort high low rest rfl).elim

/-! ## What the parser accepts -/

theorem uuidParse_status (text : Nat → UInt8) : (uuidParse text).status = 0 ↔
    HasHyphens text ∧ ∀ c ∈ uuidDigits text, IsHexDigit c ∨ IsWideDigit c := by
  rw [(uuidParse_reads text).status_iff]
  exact and_congr_right fun _ => forall₂_congr fun c _ => unhexChar_ne_iff c

theorem uuidParse_of_text {text : Nat → UInt8} (h : UuidText text) :
    uuidParse text = ⟨0, combined (uuidDigits text)⟩ :=
  (uuidParse_reads text).zero
    ⟨h.1, fun c hc => (unhexChar_ne_iff c).mpr (.inl (h.2 c hc))⟩

/-- Letters that are no digits are the only strings that the parser accepts without need. -/
theorem accepted_iff (text : Nat → UInt8) :
    (uuidParse text).status = 0 ↔ UuidText text ∨ WideUuidText text := by
  rw [uuidParse_status]
  constructor
  · rintro ⟨hHyphens, hDigits⟩
    by_cases hWide : ∃ c ∈ uuidDigits text, IsWideDigit c
    · exact .inr ⟨hHyphens, hDigits, hWide⟩
    · refine .inl ⟨hHyphens, fun c hc => (hDigits c hc).resolve_right fun hLetter => ?_⟩
      exact hWide ⟨c, hc, hLetter⟩
  · rintro (⟨hHyphens, hDigits⟩ | ⟨hHyphens, hDigits, _⟩)
    · exact ⟨hHyphens, fun c hc => .inl (hDigits c hc)⟩
    · exact ⟨hHyphens, hDigits⟩

theorem not_uuidText_of_wide {text : Nat → UInt8} (h : WideUuidText text) : ¬ UuidText text := by
  obtain ⟨_, _, c, hc, hWide⟩ := h
  exact fun hText => (unhexChar_value (hText.2 c hc)).2 hWide

/-- The parser keeps to the grammar on every string but those in which letters behind `f` are the
only fault. -/
theorem uuidGrammarLaw_iff (text : Nat → UInt8) : UuidGrammarLaw text ↔ ¬ WideUuidText text := by
  constructor
  · intro hLaw hWide
    have hAccepted := (accepted_iff text).mpr (.inr hWide)
    exact not_uuidText_of_wide hWide (hLaw.accepts.mp hAccepted)
  · intro hNarrow
    have hAccepts : (uuidParse text).status = 0 ↔ UuidText text := by
      rw [accepted_iff, or_iff_left hNarrow]
    refine ⟨hAccepts, fun hZero => ?_, fun c hc hOther => ?_⟩
    · have hText := hAccepts.mp hZero
      rw [uuidParse_of_text hText]
      exact combined_value hText.2
    · refine (uuidParse_reads text).minus fun hRead => ?_
      have hText := hAccepts.mp ((uuidParse_reads text).status_iff.mpr hRead)
      exact hOther (hText.2 c hc)

theorem uuidGrammarLaw_fails_on_g :
    ¬ UuidGrammarLaw (writeText (fun _ => 0) 0
      ("g0000000-0000-0000-0000-000000000000".toList.map fun c => UInt8.ofNat c.toNat)) := by
  intro hLaw
  have hAccepted := hLaw.accepts.mp (by decide +kernel)
  exact absurd (hAccepted.2 0x67 (by decide +kernel)) (by decide)

/-! ## Printing and reading -/

theorem uuidUnparse_eq (u : Uuid) : uuidUnparse u = hexText u.bytes := by
  rw [uuidUnparse, List.take_of_length_le]
  rw [hexText_length, u.size, UUID_STR_LEN]
  decide

theorem uuidUnparse_length (u : Uuid) : (uuidUnparse u).length = 32 := by
  rw [uuidUnparse_eq, hexText_length, u.size]

theorem uuidUnparse_digits {u : Uuid} {c : UInt8} (h : c ∈ uuidUnparse u) : IsHexDigit c := by
  rw [uuidUnparse_eq] at h
  exact hexText_digits h

/-- The digits in groups of 8, 4, 4, 4 and 12, as the printer wrote them before. -/
def hyphenated (digits : List UInt8) : List UInt8 :=
  digits.take 8 ++ 0x2D :: ((digits.drop 8).take 4 ++ 0x2D :: ((digits.drop 12).take 4 ++
    0x2D :: ((digits.drop 16).take 4 ++ 0x2D :: digits.drop 20)))

theorem hyphenated_length {digits : List UInt8} (h : digits.length = 32) :
    (hyphenated digits).length = 36 := by
  simp [hyphenated, h]

theorem window_uuid (text : Nat → UInt8) : window text 0 36 =
    window text 0 8 ++ text 8 :: (window text 9 4 ++ text 13 :: (window text 14 4 ++
      text 18 :: (window text 19 4 ++ text 23 :: window text 24 12))) := by
  have hGroup (p bytes rest : Nat) : window text p (bytes + (rest + 1)) =
      window text p bytes ++ text (p + bytes) :: window text (p + bytes + 1) rest := by
    rw [window_add, window_succ]
  rw [hGroup 0 8 27, hGroup 9 4 22, hGroup 14 4 17, hGroup 19 4 12]

/-- A text in groups has its hyphens, and its digits are the digits of the groups. -/
theorem hyphenated_written {digits : List UInt8} (h : digits.length = 32) {text : Nat → UInt8}
    (hText : window text 0 36 = hyphenated digits) :
    HasHyphens text ∧ uuidDigits text = digits := by
  rw [window_uuid, hyphenated] at hText
  obtain ⟨hFirst, hText⟩ := List.append_inj hText (by simp [h])
  obtain ⟨hHyphen8, hText⟩ := List.cons.inj hText
  obtain ⟨hSecond, hText⟩ := List.append_inj hText (by simp [h])
  obtain ⟨hHyphen13, hText⟩ := List.cons.inj hText
  obtain ⟨hThird, hText⟩ := List.append_inj hText (by simp [h])
  obtain ⟨hHyphen18, hText⟩ := List.cons.inj hText
  obtain ⟨hFourth, hText⟩ := List.append_inj hText (by simp [h])
  obtain ⟨hHyphen23, hLast⟩ := List.cons.inj hText
  refine ⟨⟨hHyphen8, hHyphen13, hHyphen18, hHyphen23⟩, ?_⟩
  rw [uuidDigits, hFirst, hSecond, hThird, hFourth, hLast]
  simp only [← List.take_add, List.take_append_drop, Nat.reduceAdd]

theorem window_written (m : Nat → UInt8) (text : List UInt8) :
    window (writeText m 0 text) 0 text.length = text := by
  have hWindow := window_writeText m 0 0 text
  rwa [window_zero, List.nil_append, Nat.zero_add, Nat.zero_add] at hWindow

/-- Bytes whose values are those of the digits are the bytes that were printed. -/
theorem combined_unparse (u : Uuid) : combined (uuidUnparse u) = u.bytes := by
  refine List.map_injective_iff.mpr (fun _ _ => UInt8.toNat_inj.mp) ?_
  rw [combined_value fun c hc => uuidUnparse_digits hc, uuidUnparse_eq, hexBytes_hexText]

theorem uuidParse_hyphenated (m : Nat → UInt8) (u : Uuid) :
    uuidParse (writeText m 0 (hyphenated (uuidUnparse u))) = ⟨0, u.bytes⟩ := by
  have hLength := uuidUnparse_length u
  have hWindow := window_written m (hyphenated (uuidUnparse u))
  rw [hyphenated_length hLength] at hWindow
  obtain ⟨hHyphens, hDigits⟩ := hyphenated_written hLength hWindow
  have hText : UuidText (writeText m 0 (hyphenated (uuidUnparse u))) := by
    refine ⟨hHyphens, fun c hc => ?_⟩
    rw [hDigits] at hc
    exact uuidUnparse_digits hc
  rw [uuidParse_of_text hText, hDigits, combined_unparse]

/-- The ninth character of a printed text is a digit. -/
theorem uuidParse_unparse (m : Nat → UInt8) (u : Uuid) :
    (uuidParse (writeText m 0 (uuidUnparse u))).status = -1 := by
  refine (uuidParse_reads _).minus fun hRead => ?_
  have hNinth : 8 < (uuidUnparse u).length := by
    rw [uuidUnparse_length]
    decide
  have hDigit := uuidUnparse_digits (List.getElem_mem hNinth)
  have hHyphen := hRead.1.1
  rw [← Nat.zero_add 8, writeText_text hNinth] at hHyphen
  rw [hHyphen] at hDigit
  exact absurd hDigit (by decide)

theorem unparse_uuidParse {text : Nat → UInt8} (hZero : (uuidParse text).status = 0)
    (hDigits : ∀ c ∈ uuidDigits text, IsHexDigit c) :
    ∃ u : Uuid, uuidParse text = ⟨0, u.bytes⟩ ∧
      uuidUnparse u = (uuidDigits text).map lowerDigit := by
  have hText : UuidText text := ⟨((uuidParse_status text).mp hZero).1, hDigits⟩
  have hSize : (combined (uuidDigits text)).length = 16 := by
    rw [combined_length, uuidDigits_length]
  refine ⟨⟨combined (uuidDigits text), hSize⟩, uuidParse_of_text hText, ?_⟩
  rw [uuidUnparse_eq]
  refine hexText_hexBytes hDigits ?_ (combined_value hDigits)
  rw [uuidDigits_length, hSize]

/-- What is printed is not what is read: the parser takes a printed text only with hyphens put
in, and then gives the identifier back; what it reads from digits is printed as these digits. -/
theorem uuid_roundTrip :
    (∀ (m : Nat → UInt8) (u : Uuid),
      (uuidParse (writeText m 0 (uuidUnparse u))).status = -1 ∧
        uuidParse (writeText m 0 (hyphenated (uuidUnparse u))) = ⟨0, u.bytes⟩) ∧
    ∀ text : Nat → UInt8, (uuidParse text).status = 0 →
      (∀ c ∈ uuidDigits text, IsHexDigit c) →
        ∃ u : Uuid, uuidParse text = ⟨0, u.bytes⟩ ∧
          uuidUnparse u = (uuidDigits text).map lowerDigit :=
  ⟨fun m u => ⟨uuidParse_unparse m u, uuidParse_hyphenated m u⟩, fun _ => unparse_uuidParse⟩

theorem uuid_roundTrip_fails : ¬ ∀ (m : Nat → UInt8) (u : Uuid),
    uuidParse (writeText m 0 (uuidUnparse u)) = ⟨0, u.bytes⟩ := by
  intro hTrip
  have hStatus := congrArg Unhexed.status (hTrip (fun _ => 0) ⟨List.replicate 16 0, rfl⟩)
  exact absurd hStatus (by decide +kernel)

end FcomGateway
