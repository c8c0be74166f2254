import FcomGateway.Fragmentation

/-! # The grammar of report frames

A report is `{Xdd}` with X one of F, L, E, T and dd two digits of a number in 1..50. The handler
looks at the letter, the closing brace and the number that the two address bytes stand for, not at
the opening brace and not at whether these bytes are digits.
-/

namespace FcomGateway

def IsDigit (b : UInt8) : Prop := 0x30 ≤ b.toNat ∧ b.toNat ≤ 0x39

instance (b : UInt8) : Decidable (IsDigit b) := inferInstanceAs (Decidable (_ ∧ _))

/-- The report whose five bytes begin at position `p`. -/
def grammarAt (dtmp : List UInt8) (p : Nat) : Option (Report × Nat) :=
  if byteAt dtmp p = 0x7B ∧ IsDigit (byteAt dtmp (p + 2)) ∧ IsDigit (byteAt dtmp (p + 3)) ∧
    byteAt dtmp (p + 4) = 0x7D then
    match reportOf (byteAt dtmp (p + 1)) with
    | some letter =>
      let dd := ((byteAt dtmp (p + 2)).toNat - 0x30) * 10 + ((byteAt dtmp (p + 3)).toNat - 0x30)
      if 1 ≤ dd ∧ dd ≤ MAX_DECTECTOR then some (letter, dd) else none
    | none => none
  else none

/-- The reports of the substrings `{Xdd}` of a buffer, in order. -/
def grammarReports (dtmp : List UInt8) : List (Report × Nat) :=
  (List.range dtmp.length).filterMap (grammarAt dtmp)

/-- The grammar read at the position of the letter. -/
def letterAt (dtmp : List UInt8) : Nat → Option (Report × Nat)
  | 0 => none
  | p + 1 => grammarAt dtmp p

/-- The frames of a buffer by the grammar: its reports, and the requests for a slot. -/
def grammarFrameAt (dtmp : List UInt8) (i : Nat) : Option Frame :=
  if byteAt dtmp i = 0x4E ∧ byteAt dtmp (i + 1) = 0x30 ∧ byteAt dtmp (i + 2) = 0x30 ∧
    byteAt dtmp (i + 3) = 0x7D then some .request
  else (letterAt dtmp i).map fun r => .report r.1 r.2

def grammarFrames (dtmp : List UInt8) : List Frame :=
  (List.range dtmp.length).filterMap (grammarFrameAt dtmp)

/-- A call applies exactly the reports of the grammar: the table behind it is what these make of the
table before it, each report in its turn among the slots that are handed out, and a mark for a
confirmed slot. No entry of another detector changes unless its slot is handed out. -/
structure GrammarLaw (now : Int) (dtmp : List UInt8) (g : Gateway) : Prop where
  reports : (sensorDataHandler now dtmp g).reports = g.reports ++ grammarReports dtmp
  table : (sensorDataHandler now dtmp g).sensorData =
    { (grammarFrames dtmp).foldl SensorData.frame g.sensorData with
      deviceActivated := (sensorDataHandler now dtmp g).sensorData.deviceActivated }
  marks : (sensorDataHandler now dtmp g).sensorData.deviceActivated =
      g.sensorData.deviceActivated ∨
    ((g.isRegisterSensor = true ∨ Frame.request ∈ grammarFrames dtmp) ∧
      MarksOne g.sensorData.deviceActivated
        (sensorDataHandler now dtmp g).sensorData.deviceActivated)
  others : ∀ d, d ∉ (grammarReports dtmp).map Prod.snd →
    (Frame.request ∈ frames dtmp → freeSlot g.sensorData ≠ some d) →
      (sensorDataHandler now dtmp g).sensorData.dtorSensorState d =
        g.sensorData.dtorSensorState d ∧
      (sensorDataHandler now dtmp g).sensorData.dtorBatState d = g.sensorData.dtorBatState d

/-- What the handler takes for the tail of a report with an address in range has an opening brace
before it and digits for its address. -/
def Framed (dtmp : List UInt8) : Prop :=
  ∀ i ∈ List.range dtmp.length, ∀ letter ∈ reportOf (byteAt dtmp i),
    byteAt dtmp (i + 3) = 0x7D → 0 < reportAdd dtmp i ∧ reportAdd dtmp i < 51 →
      1 ≤ i ∧ byteAt dtmp (i - 1) = 0x7B ∧ IsDigit (byteAt dtmp (i + 1)) ∧
        IsDigit (byteAt dtmp (i + 2))

instance (dtmp : List UInt8) : Decidable (Framed dtmp) :=
  inferInstanceAs (Decidable (∀ i ∈ List.range dtmp.length, ∀ letter ∈ reportOf (byteAt dtmp i),
    byteAt dtmp (i + 3) = 0x7D → 0 < reportAdd dtmp i ∧ reportAdd dtmp i < 51 → _))

/-! ## One position -/

theorem reportAdd_digits {dtmp : List UInt8} {i : Nat} (hHigh : IsDigit (byteAt dtmp (i + 1)))
    (hLow : IsDigit (byteAt dtmp (i + 2))) : reportAdd dtmp i =
      (((byteAt dtmp (i + 1)).toNat - 0x30) * 10 + ((byteAt dtmp (i + 2)).toNat - 0x30) : Nat) := by
  obtain ⟨hHigh, _⟩ := hHigh
  obtain ⟨hLow, _⟩ := hLow
  unfold reportAdd
  omega

theorem frameAt_report {dtmp : List UInt8} {i : Nat} {letter : Report} {d : Nat} :
    (frameAt dtmp i).bind Frame.report? = some (letter, d) ↔
      byteAt dtmp i = letter.letter ∧ byteAt dtmp (i + 3) = 0x7D ∧
        (0 < reportAdd dtmp i ∧ reportAdd dtmp i < 51) ∧ d = (reportAdd dtmp i).toNat := by
  have hLetter : ∀ letter : Report, letter.letter ≠ 0x4E := by
    intro letter
    cases letter <;> decide
  unfold frameAt
  by_cases hClose : byteAt dtmp (i + 3) = 0x7D
  swap
  · simp [hClose]
  by_cases hN : byteAt dtmp i = 0x4E
  · rw [if_pos hClose, if_pos hN, hN]
    refine iff_of_false ?_ fun h => hLetter letter h.1.symm
    split <;> simp [Frame.report?, Frame.view?]
  · rw [if_pos hClose, if_neg hN]
    cases hReport : reportOf (byteAt dtmp i) with
    | none =>
      refine iff_of_false (by simp) fun h => ?_
      rw [reportOf_eq_some.mpr h.1] at hReport
      cases hReport
    | some other =>
      have hOther := reportOf_eq_some.mp hReport
      have hSame : byteAt dtmp i = letter.letter ↔ other = letter := by
        rw [← reportOf_eq_some, hReport, Option.some.injEq]
      by_cases hAdd : 0 < reportAdd dtmp i ∧ reportAdd dtmp i < 51
      · simp [hAdd, hClose, hSame, Frame.report?, Frame.view?, Observation.report?, eq_comm]
      · simp [hAdd]

/-- The grammar asks for what the handler asks for, and for the brace and the digits. -/
theorem grammarAt_eq_some {dtmp : List UInt8} {p : Nat} {r : Report × Nat} :
    grammarAt dtmp p = some r ↔
      (byteAt dtmp p = 0x7B ∧ IsDigit (byteAt dtmp (p + 2)) ∧ IsDigit (byteAt dtmp (p + 3))) ∧
        (frameAt dtmp (p + 1)).bind Frame.report? = some r := by
  obtain ⟨letter, d⟩ := r
  rw [frameAt_report]
  unfold grammarAt
  split
  · rename_i hShape
    obtain ⟨hOpen, hHigh, hLow, hClose⟩ := hShape
    have hAdd : reportAdd dtmp (p + 1) = _ := reportAdd_digits hHigh hLow
    rw [and_iff_right ⟨hOpen, hHigh, hLow⟩, and_iff_right hClose, hAdd, ← reportOf_eq_some,
      Int.toNat_natCast]
    cases reportOf (byteAt dtmp (p + 1)) with
    | none => simp
    | some other =>
      generalize ((byteAt dtmp (p + 2)).toNat - 0x30) * 10 +
        ((byteAt dtmp (p + 3)).toNat - 0x30) = dd
      have hRange : (0 < (dd : Int) ∧ (dd : Int) < 51) ↔ 1 ≤ dd ∧ dd ≤ MAX_DECTECTOR := by
        unfold MAX_DECTECTOR
        omega
      rw [hRange]
      by_cases hdd : 1 ≤ dd ∧ dd ≤ MAX_DECTECTOR
      · simp [hdd, eq_comm]
      · simp [hdd]
  · rename_i hShape
    refine iff_of_false (by simp) fun h => hShape ?_
    exact ⟨h.1.1, h.1.2.1, h.1.2.2, h.2.2.1⟩

theorem byteAt_drop (dtmp : List UInt8) (p k : Nat) :
    byteAt (dtmp.drop p) k = byteAt dtmp (p + k) := by
  simp [byteAt, List.getD_eq_getElem?_getD]

theorem take_five {list : List UInt8} {a b c d e : UInt8} (hEnd : e ≠ 0) :
    list.take 5 = [a, b, c, d, e] ↔ byteAt list 0 = a ∧ byteAt list 1 = b ∧ byteAt list 2 = c ∧
      byteAt list 3 = d ∧ byteAt list 4 = e := by
  match list with
  | [] | [_] | [_, _] | [_, _, _] | [_, _, _, _] => simp [byteAt, hEnd.symm]
  | _ :: _ :: _ :: _ :: _ :: _ => simp [byteAt]

theorem isDigit_pair {h l : UInt8} {d : Nat} : (∃ dd : Fin 100, d = dd ∧
      h = 0x30 + UInt8.ofNat (dd / 10) ∧ l = 0x30 + UInt8.ofNat (dd % 10)) ↔
    IsDigit h ∧ IsDigit l ∧ d = (h.toNat - 0x30) * 10 + (l.toNat - 0x30) := by
  constructor
  · rintro ⟨dd, rfl, rfl, rfl⟩
    obtain ⟨hHigh, hLow⟩ := digits_toNat dd
    unfold IsDigit
    rw [hHigh, hLow]
    omega
  · rintro ⟨⟨hHigh, hHigh'⟩, ⟨hLow, hLow'⟩, rfl⟩
    obtain ⟨hDigit, hDigit'⟩ := digits_toNat ⟨(h.toNat - 0x30) * 10 + (l.toNat - 0x30), by omega⟩
    refine ⟨⟨(h.toNat - 0x30) * 10 + (l.toNat - 0x30), by omega⟩, rfl, ?_, ?_⟩
    · apply UInt8.toNat_inj.mp
      rw [hDigit]
      simp only
      omega
    · apply UInt8.toNat_inj.mp
      rw [hDigit']
      simp only
      omega

theorem grammarAt_substring {dtmp : List UInt8} {p : Nat} {letter : Report} {d : Nat} :
    grammarAt dtmp p = some (letter, d) ↔ (1 ≤ d ∧ d ≤ MAX_DECTECTOR) ∧
      ∃ dd : Fin 100, d = dd ∧ (dtmp.drop p).take 5 = letter.bytes dd := by
  have hBytes : ∀ dd : Fin 100, (dtmp.drop p).take 5 = letter.bytes dd ↔
      byteAt dtmp p = 0x7B ∧ byteAt dtmp (p + 1) = letter.letter ∧
        byteAt dtmp (p + 2) = 0x30 + UInt8.ofNat (dd / 10) ∧
        byteAt dtmp (p + 3) = 0x30 + UInt8.ofNat (dd % 10) ∧ byteAt dtmp (p + 4) = 0x7D := by
    intro dd
    simp only [Report.bytes, take_five (show (0x7D : UInt8) ≠ 0 by decide), byteAt_drop,
      Nat.add_zero]
  rw [grammarAt_eq_some, frameAt_report]
  constructor
  · rintro ⟨⟨hOpen, hHigh, hLow⟩, hLetter, hClose, hRange, rfl⟩
    have hAdd : reportAdd dtmp (p + 1) = _ := reportAdd_digits hHigh hLow
    have hNat : (reportAdd dtmp (p + 1)).toNat = _ := congrArg Int.toNat hAdd
    obtain ⟨dd, hd, hHigh', hLow'⟩ := isDigit_pair.mpr ⟨hHigh, hLow, hNat⟩
    refine ⟨?_, dd, hd, (hBytes dd).mpr ⟨hOpen, hLetter, hHigh', hLow', hClose⟩⟩
    unfold MAX_DECTECTOR
    omega
  · rintro ⟨hRange, dd, hd, hSub⟩
    obtain ⟨hOpen, hLetter, hHigh', hLow', hClose⟩ := (hBytes dd).mp hSub
    obtain ⟨hHigh, hLow, hValue⟩ := isDigit_pair.mp ⟨dd, hd, hHigh', hLow'⟩
    have hAdd : reportAdd dtmp (p + 1) = (d : Int) := by
      rw [hValue]
      exact reportAdd_digits hHigh hLow
    refine ⟨⟨hOpen, hHigh, hLow⟩, hLetter, hClose, ?_, ?_⟩
    · unfold MAX_DECTECTOR at hRange
      omega
    · rw [hAdd, Int.toNat_natCast]

/-! ## The buffer -/

theorem filterMap_length_le {α β : Type} {list : List α} {f f' : α → Option β}
    (hSub : ∀ a ∈ list, ∀ b, f' a = some b → f a = some b) :
    (list.filterMap f').length ≤ (list.filterMap f).length := by
  induction list with
  | nil => exact le_refl _
  | cons a rest ih =>
    have hRest := ih fun a' ha' => hSub a' (List.mem_cons_of_mem a ha')
    cases h' : f' a with
    | none =>
      rw [List.filterMap_cons_none h']
      refine hRest.trans ?_
      cases h : f a <;> simp [h]
    | some b =>
      rw [List.filterMap_cons_some h', List.filterMap_cons_some (hSub a List.mem_cons_self b h')]
      exact Nat.succ_le_succ hRest

/-- A filter that accepts fewer elements gives the same list only when it accepts the same. -/
theorem filterMap_eq_iff {α β : Type} {list : List α} {f f' : α → Option β}
    (hSub : ∀ a ∈ list, ∀ b, f' a = some b → f a = some b) :
    list.filterMap f = list.filterMap f' ↔ ∀ a ∈ list, ∀ b, f a = some b → f' a = some b := by
  induction list with
  | nil => exact iff_of_true rfl nofun
  | cons a rest ih =>
    have hRest : ∀ a' ∈ rest, ∀ b, f' a' = some b → f a' = some b :=
      fun a' ha' => hSub a' (List.mem_cons_of_mem a ha')
    rw [List.forall_mem_cons, ← ih hRest]
    cases h : f a with
    | none =>
      have h' : f' a = none := by
        by_contra hSome
        obtain ⟨b, hb⟩ := Option.ne_none_iff_exists'.mp hSome
        rw [hSub a List.mem_cons_self b hb] at h
        cases h
      rw [List.filterMap_cons_none h, List.filterMap_cons_none h']
      exact (and_iff_right nofun).symm
    | some b =>
      cases h' : f' a with
      | none =>
        rw [List.filterMap_cons_some h, List.filterMap_cons_none h']
        refine iff_of_false (fun hEq => ?_) fun hBoth => by cases hBoth.1 b rfl
        have hLength := filterMap_length_le hRest
        rw [← hEq, List.length_cons] at hLength
        omega
      | some b' =>
        have hSame := hSub a List.mem_cons_self b' h'
        rw [h] at hSame
        cases hSame
        rw [List.filterMap_cons_some h, List.filterMap_cons_some h', List.cons_inj_right]
        exact (and_iff_right fun _ hb => hb).symm

theorem grammarReports_eq (dtmp : List UInt8) :
    grammarReports dtmp = (List.range dtmp.length).filterMap (letterAt dtmp) := by
  unfold grammarReports
  cases hLength : dtmp.length with
  | zero => rfl
  | succ n =>
    -- the last position is too close to the end for a report
    have hEnd : grammarAt dtmp n = none := by
      have hPast : byteAt dtmp (n + 4) = 0 := by
        rw [byteAt, List.getD_eq_getElem?_getD, List.getElem?_eq_none (by omega)]
        rfl
      refine if_neg fun hShape => ?_
      rw [hPast] at hShape
      exact absurd hShape.2.2.2 (by decide)
    have hShift : (List.range (n + 1)).filterMap (letterAt dtmp) =
        (List.range n).filterMap (grammarAt dtmp) := by
      rw [List.range_succ_eq_map, List.filterMap_cons_none rfl, List.filterMap_map]
      rfl
    rw [hShift, List.range_succ, List.filterMap_append, List.filterMap_cons_none hEnd,
      List.filterMap_nil, List.append_nil]

theorem frames_reports {dtmp : List UInt8} (hBrace : byteAt dtmp 0 = 0x7B) :
    (frames dtmp).filterMap Frame.report? =
      (List.range dtmp.length).filterMap fun i => (frameAt dtmp i).bind Frame.report? := by
  rw [frames, if_pos hBrace, List.filterMap_filterMap]

theorem letterAt_eq_some {dtmp : List UInt8} {i : Nat} {r : Report × Nat} :
    letterAt dtmp i = some r ↔ (1 ≤ i ∧ byteAt dtmp (i - 1) = 0x7B ∧
      IsDigit (byteAt dtmp (i + 1)) ∧ IsDigit (byteAt dtmp (i + 2))) ∧
        (frameAt dtmp i).bind Frame.report? = some r := by
  cases i with
  | zero => exact iff_of_false nofun fun h => absurd h.1.1 (by decide)
  | succ p =>
    refine grammarAt_eq_some.trans (and_congr_left fun _ => ?_)
    exact (and_iff_right (Nat.succ_pos p)).symm

theorem reports_eq_grammar_iff {dtmp : List UInt8} (hBrace : byteAt dtmp 0 = 0x7B) :
    (frames dtmp).filterMap Frame.report? = grammarReports dtmp ↔ Framed dtmp := by
  rw [frames_reports hBrace, grammarReports_eq,
    filterMap_eq_iff fun i _ r hr => (letterAt_eq_some.mp hr).2]
  refine forall_congr' fun i => forall_congr' fun _ => ?_
  constructor
  · intro h letter hLetter hClose hRange
    have hFrame := frameAt_report.mpr ⟨reportOf_eq_some.mp hLetter, hClose, hRange, rfl⟩
    exact (letterAt_eq_some.mp (h _ hFrame)).1
  · rintro h ⟨letter, d⟩ hFrame
    obtain ⟨hLetter, hClose, hRange, hd⟩ := frameAt_report.mp hFrame
    exact letterAt_eq_some.mpr ⟨h letter (reportOf_eq_some.mpr hLetter) hClose hRange, hFrame⟩

theorem grammarFrameAt_request {dtmp : List UInt8} {i : Nat} :
    frameAt dtmp i = some .request ↔ byteAt dtmp i = 0x4E ∧ byteAt dtmp (i + 1) = 0x30 ∧
      byteAt dtmp (i + 2) = 0x30 ∧ byteAt dtmp (i + 3) = 0x7D := by
  unfold frameAt
  constructor
  · intro h
    repeat' split at h
    all_goals cases h
    rename_i hClose hLetter hZeros
    exact ⟨hLetter, hZeros.1, hZeros.2, hClose⟩
  · rintro ⟨hLetter, hHigh, hLow, hClose⟩
    rw [if_pos hClose, if_pos hLetter, if_pos ⟨hHigh, hLow⟩]

/-- In a framed buffer the handler acts on the frames of the grammar. -/
theorem frames_eq_grammar {dtmp : List UInt8} (hBrace : byteAt dtmp 0 = 0x7B)
    (hFramed : Framed dtmp) : frames dtmp = grammarFrames dtmp := by
  rw [frames, if_pos hBrace, grammarFrames]
  refine List.filterMap_congr fun i hi => ?_
  have hSame : ∀ r, (frameAt dtmp i).bind Frame.report? = some r ↔ letterAt dtmp i = some r := by
    rintro ⟨letter, d⟩
    refine ⟨fun h => ?_, fun h => (letterAt_eq_some.mp h).2⟩
    obtain ⟨hLetter, hClose, hRange, -⟩ := frameAt_report.mp h
    exact letterAt_eq_some.mpr
      ⟨hFramed i hi letter (reportOf_eq_some.mpr hLetter) hClose hRange, h⟩
  have hReport : (frameAt dtmp i).bind Frame.report? = letterAt dtmp i :=
    Option.ext fun r => hSame r
  rw [grammarFrameAt, ← hReport]
  split
  · rename_i hRequest
    exact grammarFrameAt_request.mpr hRequest
  · rename_i hOther
    cases hFrame : frameAt dtmp i with
    | none => rfl
    | some frame =>
      cases frame with
      | request => exact absurd (grammarFrameAt_request.mp hFrame) hOther
      | report letter add => rfl

/-! ## The entries of other detectors -/

def SameEntries (d : Nat) (g next : Gateway) : Prop :=
  next.sensorData.dtorSensorState d = g.sensorData.dtorSensorState d ∧
    next.sensorData.dtorBatState d = g.sensorData.dtorBatState d

theorem report_sameEntries {d : Nat} {r : Report × Nat} (hd : d ≠ r.2) (table : SensorData) :
    (table.report r).dtorSensorState d = table.dtorSensorState d ∧
      (table.report r).dtorBatState d = table.dtorBatState d :=
  ⟨if_neg hd, if_neg hd⟩

theorem applyFrame_sameEntries {d : Nat} {g : Gateway} {frame : Frame}
    (hReport : ∀ letter, frame ≠ .report letter d)
    (hRequest : frame = .request → freeSlot g.sensorData ≠ some d) :
    SameEntries d g (applyFrame g frame) := by
  rw [SameEntries, applyFrame_sensorData]
  cases frame with
  | request =>
    have hOther := hRequest rfl
    rw [SensorData.frame]
    cases hFree : freeSlot g.sensorData with
    | none => exact ⟨rfl, rfl⟩
    | some c =>
      have hd : d ≠ c := by
        rintro rfl
        exact hOther hFree
      exact ⟨Function.update_of_ne hd _ _, Function.update_of_ne hd _ _⟩
  | report letter add =>
    have hd : d ≠ add := by
      rintro rfl
      exact hReport letter rfl
    exact report_sameEntries hd g.sensorData

theorem frames_sameEntries {d : Nat} (list : List Frame) {g : Gateway}
    (hReport : ∀ letter, Frame.report letter d ∉ list)
    (hRequest : Frame.request ∈ list → freeSlot g.sensorData ≠ some d) :
    SameEntries d g (list.foldl applyFrame g) := by
  induction list generalizing g with
  | nil => exact ⟨rfl, rfl⟩
  | cons frame rest ih =>
    have hFree := applyFrame_freeSlot g frame
    have hFirst : SameEntries d g (applyFrame g frame) := by
      refine applyFrame_sameEntries ?_ ?_
      · rintro letter rfl
        exact hReport letter List.mem_cons_self
      · rintro rfl
        exact hRequest List.mem_cons_self
    have hRest : SameEntries d (applyFrame g frame)
        (rest.foldl applyFrame (applyFrame g frame)) := by
      refine ih (fun letter hMem => hReport letter (List.mem_cons_of_mem _ hMem)) fun hMem => ?_
      rw [hFree]
      exact hRequest (List.mem_cons_of_mem _ hMem)
    exact ⟨hRest.1.trans hFirst.1, hRest.2.trans hFirst.2⟩

theorem confirmRegistration_sameEntries (d : Nat) (g : Gateway) :
    SameEntries d g (confirmRegistration g) := by
  obtain ⟨_, _, _, _, hWrites⟩ := confirmRegistration_writes g
  rw [hWrites]
  exact ⟨rfl, rfl⟩

theorem handler_sameEntries {d : Nat} {dtmp : List UInt8} {g : Gateway}
    (hReport : ∀ letter, Frame.report letter d ∉ frames dtmp)
    (hRequest : Frame.request ∈ frames dtmp → freeSlot g.sensorData ≠ some d) (now : Int) :
    SameEntries d g (sensorDataHandler now dtmp g) := by
  have hScan := frames_sameEntries (frames dtmp) hReport hRequest
  have hConfirm := confirmRegistration_sameEntries d (scanBuffer dtmp g)
  rw [scanBuffer_eq] at hConfirm
  cases dtmp with
  | nil => exact ⟨rfl, rfl⟩
  | cons b rest =>
    rw [SameEntries, sensorDataHandler_cons, sendFeedback_sensorData, scanBuffer_eq]
    exact ⟨hConfirm.1.trans hScan.1, hConfirm.2.trans hScan.2⟩

/-- The handler accepts exactly the grammar, in a buffer that begins with a brace, when everything
it takes for a report is framed as one. -/
theorem grammar_iff {dtmp : List UInt8} (hBrace : dtmp.head? = some 0x7B) (now : Int)
    (g : Gateway) : GrammarLaw now dtmp g ↔ Framed dtmp := by
  have hOpen : byteAt dtmp 0 = 0x7B := by
    obtain ⟨rest, rfl⟩ := List.head?_eq_some_iff.mp hBrace
    rfl
  rw [← reports_eq_grammar_iff hOpen]
  constructor
  · intro h
    have hReports := h.reports
    rw [sensorDataHandler_reports] at hReports
    exact List.append_cancel_left hReports
  · intro h
    have hFrames := frames_eq_grammar hOpen ((reports_eq_grammar_iff hOpen).mp h)
    refine ⟨by rw [sensorDataHandler_reports, h], ?_, ?_, fun d hd hRequest => ?_⟩
    · rw [← hFrames]
      exact sensorDataHandler_sensorData now dtmp g
    · rw [← hFrames]
      exact (sensorDataHandler_marks now dtmp g).imp And.left fun hMark => ⟨hMark.1, hMark.2.2⟩
    · refine handler_sameEntries (fun letter hMem => hd ?_) hRequest now
      rw [← h]
      exact List.mem_map.mpr ⟨(letter, d), List.mem_filterMap.mpr ⟨_, hMem, rfl⟩, rfl⟩

theorem grammar_of_one_report :
    GrammarLaw 7 (Report.F.bytes 1) (boot none false fun _ => 0) :=
  (grammar_iff (by decide) 7 (boot none false fun _ => 0)).mpr (by decide)

/-- `{F0:}` is taken for a report of detector 10, which is in alarm then. -/
theorem nondigit_accepted : ¬ ∀ (now : Int) (dtmp : List UInt8) (g : Gateway),
    dtmp.head? = some 0x7B → GrammarLaw now dtmp g := by
  intro h
  have hTable := (h 7 [0x7B, 0x46, 0x30, 0x3A, 0x7D] (boot none false fun _ => 0) rfl).table
  have hAlarm := congrFun (congrArg SensorData.dtorSensorState hTable) 10
  revert hAlarm
  decide

end FcomGateway
