import FcomGateway.Library.BlockStream
import FcomGateway.System

/-! # Reports and the cuts of the UART driver

A stream of report frames reaches `sensor_data_handler` in the buffers that the driver cuts. The
handler keeps nothing between two buffers and drops a buffer that does not begin with a brace, so
the reports it applies are those of the frames that lie whole in a buffer beginning at a frame. The
table behind the stream is the one that these reports make of the table before it.
-/

namespace FcomGateway

open BlockStream

/-- A report frame of the RF link: a letter and two decimal digits. -/
structure ReportFrame where
  letter : Report
  dd : Fin 100
  deriving DecidableEq, Repr

def ReportFrame.bytes (f : ReportFrame) : List UInt8 := f.letter.bytes f.dd

def ReportFrame.accepted (f : ReportFrame) : Option (Report × Nat) :=
  if 1 ≤ f.dd.val ∧ f.dd.val ≤ MAX_DECTECTOR then some (f.letter, f.dd) else none

def Observation.report? : Observation → Option (Report × Nat)
  | .report letter add => some (letter, add)
  | _ => none

def Frame.report? : Frame → Option (Report × Nat) := Frame.view? Observation.report?

/-- The reports that the RF handler has applied to `sensor_data`, in order. -/
def Gateway.reports (g : Gateway) : List (Report × Nat) := g.log.filterMap Observation.report?

def handleAll (g : Gateway) (buffers : List (Int × List UInt8)) : Gateway :=
  buffers.foldl (fun g buffer => sensorDataHandler buffer.1 buffer.2 g) g

/-! ## The scan along the buffer -/

def scan : List UInt8 → List Frame
  | [] => []
  | b :: rest => (frameAt (b :: rest) 0).toList ++ scan rest

theorem frameAt_cons (b : UInt8) (rest : List UInt8) (i : Nat) :
    frameAt (b :: rest) (i + 1) = frameAt rest i := by
  simp [frameAt, byteAt, reportAdd]

theorem filterMap_frameAt (dtmp : List UInt8) :
    (List.range dtmp.length).filterMap (frameAt dtmp) = scan dtmp := by
  induction dtmp with
  | nil => rfl
  | cons b rest ih =>
    have hShift : frameAt (b :: rest) ∘ Nat.succ = frameAt rest :=
      funext fun i => frameAt_cons b rest i
    rw [List.length_cons, List.range_succ_eq_map, List.filterMap_cons, List.filterMap_map,
      hShift, ih, scan]
    cases frameAt (b :: rest) 0 <;> rfl

theorem frames_brace (rest : List UInt8) : frames (0x7B :: rest) = scan (0x7B :: rest) := by
  have hBrace : byteAt (0x7B :: rest) 0 = 0x7B := rfl
  rw [frames, if_pos hBrace, filterMap_frameAt]

def Silent (b : UInt8) : Prop := b ≠ 0x4E ∧ reportOf b = none

instance (b : UInt8) : Decidable (Silent b) := inferInstanceAs (Decidable (_ ∧ _))

theorem scan_silent {b : UInt8} (hb : Silent b) (rest : List UInt8) :
    scan (b :: rest) = scan rest := by
  have hNone : frameAt (b :: rest) 0 = none := by
    simp [frameAt, byteAt, hb.1, hb.2]
  rw [scan, hNone]
  rfl

theorem scan_unclosed {b : UInt8} {rest : List UInt8} (hClose : byteAt rest 2 ≠ 0x7D) :
    scan (b :: rest) = scan rest := by
  have hNone : frameAt (b :: rest) 0 = none := if_neg hClose
  rw [scan, hNone]
  rfl

theorem digits_silent (dd : Fin 100) : Silent (0x30 + UInt8.ofNat (dd / 10)) ∧
    Silent (0x30 + UInt8.ofNat (dd % 10)) := by
  revert dd
  decide

theorem digits_toNat (dd : Fin 100) : (0x30 + UInt8.ofNat (dd / 10)).toNat = 48 + dd / 10 ∧
    (0x30 + UInt8.ofNat (dd % 10)).toNat = 48 + dd % 10 := by
  revert dd
  decide

theorem frameAt_letter (f : ReportFrame) (rest : List UInt8) :
    frameAt (f.bytes.tail ++ rest) 0 = f.accepted.map fun r => .report r.1 r.2 := by
  have hAdd : reportAdd (f.bytes.tail ++ rest) 0 = (f.dd : Int) := by
    have hDigits := digits_toNat f.dd
    simp only [reportAdd, byteAt, ReportFrame.bytes, Report.bytes, List.tail_cons, List.cons_append,
      Nat.zero_add, List.getD_cons_succ, List.getD_cons_zero, hDigits.1, hDigits.2]
    omega
  have hReport : reportOf (byteAt (f.bytes.tail ++ rest) 0) = some f.letter :=
    reportOf_eq_some.mpr rfl
  have hClose : byteAt (f.bytes.tail ++ rest) (0 + 3) = 0x7D := rfl
  have hLetter : byteAt (f.bytes.tail ++ rest) 0 ≠ 0x4E := by
    change f.letter.letter ≠ 0x4E
    cases f.letter <;> decide
  rw [frameAt, if_pos hClose, if_neg hLetter, hReport, ReportFrame.accepted, hAdd]
  have hRange : 0 < (f.dd : Int) ∧ (f.dd : Int) < 51 ↔ 1 ≤ f.dd.val ∧ f.dd.val ≤ MAX_DECTECTOR := by
    unfold MAX_DECTECTOR
    omega
  by_cases h : 1 ≤ f.dd.val ∧ f.dd.val ≤ MAX_DECTECTOR
  · dsimp only
    rw [if_pos h, if_pos (hRange.mpr h)]
    rfl
  · dsimp only
    rw [if_neg h, if_neg (mt hRange.mp h)]
    rfl

theorem scan_bytes (f : ReportFrame) (rest : List UInt8) : scan (f.bytes ++ rest) =
    (f.accepted.map fun r => Frame.report r.1 r.2).toList ++ scan rest := by
  have hDigits := digits_silent f.dd
  have hLetter : scan (f.bytes.tail ++ rest) =
      (f.accepted.map fun r => Frame.report r.1 r.2).toList ++
        scan (f.bytes.tail.tail ++ rest) := by
    rw [← frameAt_letter f rest]
    rfl
  have hOpen : scan (f.bytes ++ rest) = scan (f.bytes.tail ++ rest) := scan_silent (by decide) _
  have hTail : scan (f.bytes.tail.tail ++ rest) = scan rest := by
    change scan (_ :: _ :: _ :: rest) = _
    rw [scan_silent hDigits.1, scan_silent hDigits.2, scan_silent (by decide)]
  rw [hOpen, hLetter, hTail]

theorem scan_partial (f : ReportFrame) {n : Nat} (hn : n < 5) : scan (f.bytes.take n) = [] := by
  have hDigits := digits_silent f.dd
  match n, hn with
  | 0, _ => rfl
  | 1, _ => exact scan_silent (by decide) []
  | 2, _ =>
    change scan [_, _] = _
    rw [scan_silent (by decide), scan_unclosed (by decide), scan]
  | 3, _ =>
    change scan [_, _, _] = _
    rw [scan_silent (by decide), scan_unclosed (by simp [byteAt]), scan_silent hDigits.1, scan]
  | 4, _ =>
    change scan [_, _, _, _] = _
    rw [scan_silent (by decide), scan_unclosed (by simp [byteAt]), scan_silent hDigits.1,
      scan_silent hDigits.2, scan]

/-! ## The reports of a run of buffers -/

theorem bytes_length (f : ReportFrame) : f.bytes.length = 5 := rfl

theorem scan_take (fs : List ReportFrame) (n : Nat) :
    (scan ((stream ReportFrame.bytes fs).take n)).filterMap Frame.report? =
      (fs.take (n / 5)).filterMap ReportFrame.accepted := by
  induction fs generalizing n with
  | nil => simp [stream, scan]
  | cons f fs ih =>
    have hStream : stream ReportFrame.bytes (f :: fs) =
        f.bytes ++ stream ReportFrame.bytes fs := rfl
    by_cases hn : n < 5
    · rw [hStream, List.take_append_of_le_length (by rw [bytes_length]; omega), scan_partial f hn,
        Nat.div_eq_of_lt hn]
      rfl
    · obtain ⟨m, rfl⟩ := Nat.exists_eq_add_of_le (Nat.le_of_not_lt hn)
      have hDiv : (5 + m) / 5 = m / 5 + 1 := by omega
      have hTake : (f.bytes ++ stream ReportFrame.bytes fs).take (5 + m) =
          f.bytes ++ (stream ReportFrame.bytes fs).take m := by
        rw [← bytes_length f, List.take_length_add_append]
      rw [hStream, hTake, scan_bytes, List.filterMap_append, ih, hDiv, List.take_succ_cons,
        List.filterMap_cons]
      cases f.accepted <;> rfl

theorem frames_no_brace {b : UInt8} (hb : b ≠ 0x7B) (rest : List UInt8) (n : Nat) :
    frames ((b :: rest).take n) = [] := by
  cases n with
  | zero => rfl
  | succ n => exact if_neg hb

theorem bytes_inside (f : ReportFrame) {r : Nat} (hPos : 0 < r) (hLt : r < 5) :
    ∃ b tail, f.bytes.drop r = b :: tail ∧ b ≠ 0x7B := by
  have hLetter : f.letter.letter ≠ 0x7B := by
    cases f.letter <;> decide
  have hHigh : ∀ dd : Fin 100, 0x30 + UInt8.ofNat (dd / 10) ≠ 0x7B := by decide
  have hLow : ∀ dd : Fin 100, 0x30 + UInt8.ofNat (dd % 10) ≠ 0x7B := by decide
  match r, hPos, hLt with
  | 1, _, _ => exact ⟨_, _, rfl, hLetter⟩
  | 2, _, _ => exact ⟨_, _, rfl, hHigh f.dd⟩
  | 3, _, _ => exact ⟨_, _, rfl, hLow f.dd⟩
  | 4, _, _ => exact ⟨_, _, rfl, by decide⟩

theorem handler_receives :
    Receives ReportFrame.bytes 5 (fun dtmp => (frames dtmp).filterMap Frame.report?)
      ReportFrame.accepted := by
  refine ⟨fun fs n => ?_, fun fs r n hPos hLt => ?_⟩
  · rw [← scan_take]
    cases fs with
    | nil => simp [stream, scan, frames, byteAt]
    | cons f fs =>
      cases n with
      | zero => rfl
      | succ n => exact congrArg (List.filterMap Frame.report?) (frames_brace _)
  · cases fs with
    | nil => simp [stream, frames, byteAt]
    | cons f fs =>
      obtain ⟨b, tail, hDrop, hb⟩ := bytes_inside f hPos hLt
      have hStream : (stream ReportFrame.bytes (f :: fs)).drop r =
          b :: (tail ++ stream ReportFrame.bytes fs) := by
        change (f.bytes ++ stream ReportFrame.bytes fs).drop r = _
        rw [List.drop_append_of_le_length (by rw [bytes_length]; omega), hDrop]
        rfl
      rw [hStream, frames_no_brace hb]
      rfl

/-! ## The table behind a run of buffers -/

/-- These reports, in this order, make the table behind a run of calls out of the one before it. A
registration that was pending may be confirmed meanwhile, which marks one slot. -/
structure Applies (reports : List (Report × Nat)) (g next : Gateway) : Prop where
  log : next.reports = g.reports ++ reports
  table : next.sensorData = { reports.foldl SensorData.report g.sensorData with
    deviceActivated := next.sensorData.deviceActivated }
  marks : next.sensorData.deviceActivated = g.sensorData.deviceActivated ∨
    (g.isRegisterSensor = true ∧
      MarksOne g.sensorData.deviceActivated next.sensorData.deviceActivated)

/-- What one registration at most leaves pending. -/
structure Runs (reports : List (Report × Nat)) (g next : Gateway) : Prop
    extends Applies reports g next where
  pending : next.isRegisterSensor = true →
    g.isRegisterSensor = true ∧
      next.sensorData.deviceActivated = g.sensorData.deviceActivated

theorem foldl_report_marks (reports : List (Report × Nat)) (d : SensorData)
    (marks : Nat → Nat) :
    reports.foldl SensorData.report { d with deviceActivated := marks } =
      { reports.foldl SensorData.report d with deviceActivated := marks } := by
  induction reports generalizing d with
  | nil => rfl
  | cons r rest ih => exact ih (d.report r)

theorem Runs.refl (g : Gateway) : Runs [] g g :=
  ⟨⟨(List.append_nil _).symm, rfl, Or.inl rfl⟩, fun h => ⟨h, rfl⟩⟩

theorem Runs.trans {first second : List (Report × Nat)} {g middle next : Gateway}
    (h : Runs first g middle) (h' : Runs second middle next) :
    Runs (first ++ second) g next := by
  refine ⟨⟨by rw [h'.log, h.log, List.append_assoc], ?_, ?_⟩, fun hPending => ?_⟩
  · rw [List.foldl_append, h'.table, h.table, foldl_report_marks]
  · rcases h'.marks with hSame | ⟨hAsked, hMark⟩
    · rw [hSame]
      exact h.marks
    · obtain ⟨hBefore, hKept⟩ := h.pending hAsked
      rw [hKept] at hMark
      exact Or.inr ⟨hBefore, hMark⟩
  · obtain ⟨hMiddle, hSame⟩ := h'.pending hPending
    obtain ⟨hBefore, hKept⟩ := h.pending hMiddle
    exact ⟨hBefore, hSame.trans hKept⟩

/-- Without a request among them the frames of a buffer are reports. -/
theorem foldl_frame_reports {list : List Frame} (hReports : Frame.request ∉ list)
    (d : SensorData) :
    list.foldl SensorData.frame d = (list.filterMap Frame.report?).foldl SensorData.report d := by
  induction list generalizing d with
  | nil => rfl
  | cons frame rest ih =>
    have hRest := ih (fun h => hReports (List.mem_cons_of_mem _ h))
    cases frame with
    | request => exact absurd List.mem_cons_self hReports
    | report letter add => exact hRest _

theorem sensorDataHandler_reports (now : Int) (dtmp : List UInt8) (g : Gateway) :
    (sensorDataHandler now dtmp g).reports =
      g.reports ++ (frames dtmp).filterMap Frame.report? := by
  obtain ⟨news, hLog, hNews⟩ := sensorDataHandler_log now dtmp g
  have hView : ReportView Observation.report? := ⟨fun _ => rfl, fun _ _ => rfl⟩
  rw [Gateway.reports, hLog, List.filterMap_append, hNews _ hView]
  rfl

theorem sensorDataHandler_runs (now : Int) {dtmp : List UInt8}
    (hReports : Frame.request ∉ frames dtmp) (g : Gateway) :
    Runs ((frames dtmp).filterMap Frame.report?) g (sensorDataHandler now dtmp g) := by
  have hTable := sensorDataHandler_sensorData now dtmp g
  rw [foldl_frame_reports hReports] at hTable
  have hMarks := sensorDataHandler_marks now dtmp g
  rw [or_iff_left hReports] at hMarks
  refine ⟨⟨sensorDataHandler_reports now dtmp g, hTable, ?_⟩, fun hPending => ?_⟩
  · exact hMarks.imp And.left fun h => ⟨h.1, h.2.2⟩
  · rcases hMarks with ⟨hSame, hFlag⟩ | ⟨_, hDone, _⟩
    · exact ⟨hFlag hPending, hSame⟩
    · rw [hDone] at hPending
      cases hPending

theorem handleAll_runs {buffers : List (Int × List UInt8)}
    (hReports : ∀ buffer ∈ buffers, Frame.request ∉ frames buffer.2) (g : Gateway) :
    Runs ((buffers.map Prod.snd).flatMap fun dtmp => (frames dtmp).filterMap Frame.report?) g
      (handleAll g buffers) := by
  induction buffers generalizing g with
  | nil => exact Runs.refl g
  | cons buffer rest ih =>
    obtain ⟨hFirst, hRest⟩ := List.forall_mem_cons.mp hReports
    exact (sensorDataHandler_runs buffer.1 hFirst g).trans (ih hRest _)

theorem request_mem_frames {dtmp : List UInt8} (h : Frame.request ∈ frames dtmp) :
    0x4E ∈ dtmp := by
  unfold frames at h
  split at h
  · obtain ⟨i, hi, hFrame⟩ := List.mem_filterMap.mp h
    have hLetter : byteAt dtmp i = 0x4E := by
      by_contra hOther
      rw [frameAt, if_neg hOther] at hFrame
      repeat' split at hFrame
      all_goals cases hFrame
    have hLt := List.mem_range.mp hi
    rw [byteAt, List.getD_eq_getElem?_getD, List.getElem?_eq_getElem hLt,
      Option.getD_some] at hLetter
    exact hLetter ▸ List.getElem_mem hLt
  · cases h

theorem request_letter_notMem (fs : List ReportFrame) :
    (0x4E : UInt8) ∉ stream ReportFrame.bytes fs := by
  intro hMem
  obtain ⟨f, _, hByte⟩ := List.mem_flatMap.mp hMem
  have hDigits := digits_silent f.dd
  simp only [ReportFrame.bytes, Report.bytes, List.mem_cons, List.not_mem_nil, or_false] at hByte
  rcases hByte with h | h | h | h | h
  · exact absurd h (by decide)
  · revert h
    cases f.letter <;> decide
  · exact hDigits.1.1 h.symm
  · exact hDigits.2.1 h.symm
  · exact absurd h (by decide)

/-- However the driver cuts the stream, the reports applied to the table are those of the frames
that lie whole in a buffer which begins at a frame: none twice, none out of order, and all of them
when every cut falls between two frames. -/
theorem reports_of_cut_stream (fs : List ReportFrame) (buffers : List (Int × List UInt8))
    (hStream : (buffers.map Prod.snd).flatten = stream ReportFrame.bytes fs) (g : Gateway) :
    Applies ((whole 5 fs 0 (buffers.map Prod.snd)).filterMap ReportFrame.accepted) g
      (handleAll g buffers) ∧
    (whole 5 fs 0 (buffers.map Prod.snd)).Sublist fs ∧
    ((∀ buffer ∈ buffers, 5 ∣ buffer.2.length) →
      Applies (fs.filterMap ReportFrame.accepted) g (handleAll g buffers)) := by
  have hRequest : ∀ buffer ∈ buffers, Frame.request ∉ frames buffer.2 := by
    intro buffer hMem hFrame
    refine request_letter_notMem fs ?_
    rw [← hStream]
    exact List.mem_flatten_of_mem (List.mem_map_of_mem hMem) (request_mem_frames hFrame)
  have hApplies : Applies ((whole 5 fs 0 (buffers.map Prod.snd)).filterMap ReportFrame.accepted) g
      (handleAll g buffers) := by
    have hRuns := (handleAll_runs hRequest g).toApplies
    rwa [recv_chunks bytes_length (by decide) handler_receives fs _ 0 hStream] at hRuns
  refine ⟨hApplies, whole_sublist (by decide) fs _ 0, fun hCut => ?_⟩
  rwa [whole_of_dvd bytes_length (by decide) fs _ 0 hStream (Nat.dvd_zero 5)] at hApplies
  intro chunk hChunk
  obtain ⟨buffer, hMem, rfl⟩ := List.mem_map.mp hChunk
  exact hCut buffer hMem

/-- `{F01}{T` and `02}`: the first frame lies whole in its buffer, the second is cut. -/
theorem reports_of_two_buffers : Applies [(.F, 1)] (boot none false fun _ => 0)
    (handleAll (boot none false fun _ => 0)
      [(0, [0x7B, 0x46, 0x30, 0x31, 0x7D, 0x7B, 0x54]), (1, [0x30, 0x32, 0x7D])]) := by
  have hWhole : (whole 5 [⟨.F, 1⟩, ⟨.T, 2⟩] 0
      [[0x7B, 0x46, 0x30, 0x31, 0x7D, 0x7B, 0x54], [0x30, 0x32, 0x7D]]).filterMap
        ReportFrame.accepted = [(.F, 1)] := by decide
  rw [← hWhole]
  exact (reports_of_cut_stream [⟨.F, 1⟩, ⟨.T, 2⟩]
    [(0, [0x7B, 0x46, 0x30, 0x31, 0x7D, 0x7B, 0x54]), (1, [0x30, 0x32, 0x7D])] (by decide)
    (boot none false fun _ => 0)).1

/-- `{F` and `01}`: the fire report of detector 1 does not reach the table. -/
theorem cut_report_lost : ¬ ∀ (fs : List ReportFrame) (buffers : List (Int × List UInt8)),
    (∀ buffer ∈ buffers, buffer.2 ≠ []) →
    (buffers.map Prod.snd).flatten = stream ReportFrame.bytes fs → ∀ g : Gateway,
      Applies (fs.filterMap ReportFrame.accepted) g (handleAll g buffers) := by
  intro h
  have hTable := (h [⟨.F, 1⟩] [(0, [0x7B, 0x46]), (1, [0x30, 0x31, 0x7D])] (by decide) (by decide)
    (boot none false fun _ => 0)).table
  have hAlarm := congrFun (congrArg SensorData.dtorSensorState hTable) 1
  revert hAlarm
  decide

end FcomGateway
