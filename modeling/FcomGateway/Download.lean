import Mathlib.Data.UInt
import FcomGateway.Credentials
import FcomGateway.GwJob
import FcomGateway.Library.ByteMemory

/-! # The downloads of the activation

One callback serves the activation request and the two downloads. It prints the pieces of a
response one behind the other to `cer_link` or to `cer_buffer`, with one `length` for both, and
clears `length` when the connection ends.
-/

namespace FcomGateway

open EventTrace CJson ByteMemory

/-- A response without NUL bytes, in the pieces of `HTTP_EVENT_ON_DATA`. `disconnectInPerform`
says whether the connection ends inside `esp_http_client_perform` or in the cleanup, `ok` whether
`perform` returns `ESP_OK`. -/
structure HttpResponse where
  pieces : List (List UInt8)
  chunked : Bool
  disconnectInPerform : Bool
  ok : Bool
  bound : pieces.flatten.length ≤ 2998
  nonzero : ∀ b ∈ pieces.flatten, b ≠ 0

def HttpResponse.body (r : HttpResponse) : List UInt8 := r.pieces.flatten

inductive Transfer
  | refused
  | served (r : HttpResponse)

/-- `parsed` has the texts that were passed to `json_parser_certificate`. -/
structure Download where
  cerLink : Nat → UInt8
  cerBuffer : Nat → UInt8
  length : Nat
  ignoreFirstMessage : Bool
  mqttGetState : MqttGetState
  pageNotFound : Bool
  certificatePem : List UInt8
  privatePem : List UInt8
  parsed : List (List UInt8)

namespace Download

def boot : Download where
  cerLink _ := 0
  cerBuffer _ := 0
  length := 0
  ignoreFirstMessage := false
  mqttGetState := .cerLink
  pageNotFound := false
  certificatePem := []
  privatePem := []
  parsed := []

/-! ## The callback -/

/-- `length` is a `uint16_t`. -/
def advance (length : Nat) (data : List UInt8) : Nat := (length + (cString data).length) % 2 ^ 16

/-- `length += sprintf(cer_link + length, "%.*s", …)` -/
def printLink (s : Download) (data : List UInt8) : Download :=
  { s with
    cerLink := writeText s.cerLink s.length (cString data)
    length := advance s.length data }

def printBuffer (s : Download) (data : List UInt8) : Download :=
  { s with
    cerBuffer := writeText s.cerBuffer s.length (cString data)
    length := advance s.length data }

/-- `HTTP_EVENT_ON_DATA` -/
def onData (chunked : Bool) (s : Download) (data : List UInt8) : Download :=
  if chunked = false then
    if s.mqttGetState = .cerLink then
      if s.ignoreFirstMessage = true then s.printLink data
      else { s with ignoreFirstMessage := true }
    else s.printBuffer data
  else s.printLink data

section Steps

-- what `json_parser_certificate` returns for a text
variable (parser : List UInt8 → Bool)

/-- `HTTP_EVENT_DISCONNECTED` -/
def disconnected (s : Download) : Download :=
  if s.mqttGetState = .cerLink then
    let text := window s.cerLink 0 s.length
    { s with pageNotFound := parser text, parsed := s.parsed ++ [text], length := 0 }
  else { s with length := 0 }

def perform (r : HttpResponse) (s : Download) : Download :=
  let s := r.pieces.foldl (onData r.chunked) s
  if r.disconnectInPerform then s.disconnected parser else s

def cleanup (r : HttpResponse) (s : Download) : Download :=
  if r.disconnectInPerform then s else s.disconnected parser

/-- `"%.*s\n"` of `length` bytes of `cer_buffer`. -/
def pemText (s : Download) : List UInt8 := cString (window s.cerBuffer 0 s.length) ++ [0x0A]

/-- `mqtt_get_cer` up to the first download. -/
def mqttGetCer (r : HttpResponse) (s : Download) : Download :=
  let s := (s.perform parser r).cleanup parser r
  { s with mqttGetState := if r.ok = true ∧ s.pageNotFound = true then .cerPemValue else .cerLink }

def mqttGetCerPemFile (r : HttpResponse) (s : Download) : Download :=
  let s := s.perform parser r
  if r.ok = true then
    { ({ s with certificatePem := s.pemText }.cleanup parser r) with
      mqttGetState := .privatePemValue }
  else { (s.cleanup parser r) with mqttGetState := .cerLink }

def mqttGetPrivatePemFile (r : HttpResponse) (s : Download) : Download :=
  let s := s.perform parser r
  let s := if r.ok = true then { s with privatePem := s.pemText } else s
  { (s.cleanup parser r) with mqttGetState := .cerLink }

/-- The next request; after a failure the next one is an activation again. -/
def step (s : Download) : Transfer → Download
  | .refused => { s with mqttGetState := .cerLink }
  | .served r =>
    match s.mqttGetState with
    | .cerLink => s.mqttGetCer parser r
    | .cerPemValue => s.mqttGetCerPemFile parser r
    | .privatePemValue => s.mqttGetPrivatePemFile parser r

/-! ## The law -/

/-- The activation text is the body, and a download that succeeds gives the body and a newline. -/
def AssemblyLaw (s : Download) : Transfer → Prop
  | .refused => True
  | .served r =>
    match s.mqttGetState with
    | .cerLink => (s.step parser (.served r)).parsed = s.parsed ++ [r.body]
    | .cerPemValue => r.ok = true → (s.step parser (.served r)).certificatePem = r.body ++ [0x0A]
    | .privatePemValue => r.ok = true → (s.step parser (.served r)).privatePem = r.body ++ [0x0A]

end Steps

/-- An activation is chunked, or not the first one that is not, or its first piece is empty. A
download is empty, or the connection ends in the cleanup and the response is not chunked, or what
`cer_buffer` holds from before is the body. -/
def AssemblySafe (s : Download) : Transfer → Prop
  | .refused => True
  | .served r =>
    if s.mqttGetState = .cerLink then
      r.chunked = true ∨ s.ignoreFirstMessage = true ∨ r.pieces.headD [] = []
    else r.ok = true → r.body = [] ∨ r.disconnectInPerform = false ∧
      (r.chunked = false ∨ window s.cerBuffer 0 r.body.length = r.body)

/-! ## The pieces -/

def printAll (m : Nat → UInt8) (length : Nat) : List (List UInt8) → (Nat → UInt8) × Nat
  | [] => (m, length)
  | piece :: rest => printAll (writeText m length (cString piece)) (advance length piece) rest

theorem printAll_window {pieces : List (List UInt8)} {length : Nat}
    (hNonzero : ∀ b ∈ pieces.flatten, b ≠ 0) (hBound : length + pieces.flatten.length < 2 ^ 16)
    (m : Nat → UInt8) :
    (printAll m length pieces).2 = length + pieces.flatten.length ∧
      window (printAll m length pieces).1 0 (length + pieces.flatten.length) =
        window m 0 length ++ pieces.flatten := by
  induction pieces generalizing length m with
  | nil => exact ⟨rfl, (List.append_nil _).symm⟩
  | cons piece rest ih =>
    rw [List.flatten_cons, List.forall_mem_append] at hNonzero
    rw [List.flatten_cons, List.length_append] at hBound ⊢
    have hText : cString piece = piece := cString_eq_self hNonzero.1
    have hLength : advance length piece = length + piece.length := by
      rw [advance, hText, Nat.mod_eq_of_lt (by omega)]
    have hRest : length + piece.length + rest.flatten.length < 2 ^ 16 := by omega
    obtain ⟨hEnd, hWindow⟩ := ih hNonzero.2 hRest (writeText m length piece)
    rw [printAll, hText, hLength, ← Nat.add_assoc, hWindow]
    refine ⟨hEnd, ?_⟩
    have hPiece := window_writeText m 0 length piece
    rw [Nat.zero_add] at hPiece
    rw [hPiece, List.append_assoc]

theorem foldl_onData_link {chunked : Bool} (s : Download)
    (hMode : chunked = true ∨ s.mqttGetState = .cerLink ∧ s.ignoreFirstMessage = true)
    (pieces : List (List UInt8)) : pieces.foldl (onData chunked) s =
      { s with
        cerLink := (printAll s.cerLink s.length pieces).1
        length := (printAll s.cerLink s.length pieces).2 } := by
  induction pieces generalizing s with
  | nil => rfl
  | cons piece rest ih =>
    have hPiece : onData chunked s piece = s.printLink piece := by
      unfold onData
      rcases hMode with hChunked | ⟨hState, hIgnore⟩
      · rw [if_neg (by rw [hChunked]; nofun)]
      · rw [if_pos hState, if_pos hIgnore, ite_self]
    have hNext : chunked = true ∨ (s.printLink piece).mqttGetState = .cerLink ∧
        (s.printLink piece).ignoreFirstMessage = true := hMode
    rw [List.foldl_cons, hPiece, ih _ hNext]
    rfl

theorem foldl_onData_buffer {s : Download} (hState : s.mqttGetState ≠ .cerLink)
    (pieces : List (List UInt8)) : pieces.foldl (onData false) s =
      { s with
        cerBuffer := (printAll s.cerBuffer s.length pieces).1
        length := (printAll s.cerBuffer s.length pieces).2 } := by
  induction pieces generalizing s with
  | nil => rfl
  | cons piece rest ih =>
    have hPiece : onData false s piece = s.printBuffer piece := by
      rw [onData, if_pos rfl, if_neg hState]
    have hNext : (s.printBuffer piece).mqttGetState ≠ .cerLink := hState
    rw [List.foldl_cons, hPiece, ih hNext]
    rfl

theorem onData_first {s : Download} (hState : s.mqttGetState = .cerLink)
    (hIgnore : s.ignoreFirstMessage = false) (piece : List UInt8) :
    onData false s piece = { s with ignoreFirstMessage := true } := by
  rw [onData, if_pos rfl, if_pos hState, if_neg (by rw [hIgnore]; nofun)]

/-- What a run of pieces leaves for the parser: all of them, or all but the first. -/
theorem link_text {s : Download} (hState : s.mqttGetState = .cerLink) (hLength : s.length = 0)
    (r : HttpResponse) :
    let d := r.pieces.foldl (onData r.chunked) s
    d.mqttGetState = .cerLink ∧ d.parsed = s.parsed ∧ window d.cerLink 0 d.length =
      if r.chunked = true ∨ s.ignoreFirstMessage = true then r.body else r.pieces.tail.flatten := by
  have hBound := r.bound
  have hText {pieces : List (List UInt8)} (hNonzero : ∀ b ∈ pieces.flatten, b ≠ 0)
      (hFits : pieces.flatten.length ≤ 2998) :
      window (printAll s.cerLink s.length pieces).1 0 (printAll s.cerLink s.length pieces).2 =
        pieces.flatten := by
    have hRoom : s.length + pieces.flatten.length < 2 ^ 16 := by omega
    obtain ⟨hEnd, hWindow⟩ := printAll_window hNonzero hRoom s.cerLink
    rw [hEnd, hWindow, hLength, window_zero, List.nil_append]
  split
  · rename_i hKept
    rw [foldl_onData_link s (hKept.imp_right fun hIgnore => ⟨hState, hIgnore⟩)]
    exact ⟨hState, rfl, hText r.nonzero hBound⟩
  · rename_i hDropped
    rw [not_or] at hDropped
    have hChunked := eq_false_of_ne_true hDropped.1
    have hIgnore := eq_false_of_ne_true hDropped.2
    rw [hChunked]
    have hNonzero := r.nonzero
    cases hPieces : r.pieces with
    | nil =>
      refine ⟨hState, rfl, ?_⟩
      rw [List.foldl_nil, hLength]
      rfl
    | cons first rest =>
      rw [hPieces, List.flatten_cons] at hBound hNonzero
      rw [List.length_append] at hBound
      rw [List.forall_mem_append] at hNonzero
      rw [List.foldl_cons, onData_first hState hIgnore,
        foldl_onData_link { s with ignoreFirstMessage := true } (.inr ⟨hState, rfl⟩)]
      exact ⟨hState, rfl, hText hNonzero.2 (by omega)⟩

theorem cString_window_iff {m : Nat → UInt8} {body : List UInt8} (hBody : ∀ b ∈ body, b ≠ 0) :
    cString (window m 0 body.length) = body ↔ window m 0 body.length = body := by
  constructor
  · intro h
    have hPrefix : cString (window m 0 body.length) <+: window m 0 body.length :=
      List.takeWhile_prefix _
    rw [h] at hPrefix
    exact (hPrefix.eq_of_length window_length.symm).symm
  · intro h
    rw [h]
    exact cString_eq_self hBody

theorem buffer_text {s : Download} (hState : s.mqttGetState ≠ .cerLink) (hLength : s.length = 0)
    (r : HttpResponse) :
    let d := r.pieces.foldl (onData r.chunked) s
    d.mqttGetState = s.mqttGetState ∧ (d.pemText = r.body ++ [0x0A] ↔
      r.chunked = false ∨ window s.cerBuffer 0 r.body.length = r.body) := by
  have hBound := r.bound
  have hRoom : s.length + r.pieces.flatten.length < 2 ^ 16 := by omega
  cases hChunked : r.chunked with
  | true =>
    obtain ⟨hEnd, _⟩ := printAll_window r.nonzero hRoom s.cerLink
    rw [foldl_onData_link s (.inl rfl)]
    refine ⟨rfl, ?_⟩
    rw [pemText, List.append_cancel_right_eq]
    dsimp only
    rw [hEnd, hLength, Nat.zero_add]
    exact (cString_window_iff r.nonzero).trans (or_iff_right nofun).symm
  | false =>
    obtain ⟨hEnd, hWindow⟩ := printAll_window r.nonzero hRoom s.cerBuffer
    rw [foldl_onData_buffer hState]
    refine ⟨rfl, iff_of_true ?_ (.inl rfl)⟩
    rw [pemText]
    dsimp only
    rw [hEnd, hWindow, hLength, window_zero, List.nil_append]
    exact congrArg (· ++ [0x0A]) (cString_eq_self r.nonzero)

/-! ## One request -/

section Requests

variable {parser : List UInt8 → Bool}

theorem disconnected_length (s : Download) : (s.disconnected parser).length = 0 := by
  unfold disconnected
  split <;> rfl

theorem disconnected_download {s : Download} (hState : s.mqttGetState ≠ .cerLink) :
    s.disconnected parser = { s with length := 0 } := if_neg hState

/-- The connection ends exactly once, in `perform` or in the cleanup. -/
theorem cleanup_perform (r : HttpResponse) (s : Download) :
    (s.perform parser r).cleanup parser r =
      (r.pieces.foldl (onData r.chunked) s).disconnected parser := by
  unfold perform cleanup
  cases r.disconnectInPerform <;> rfl

theorem mqttGetCer_parsed {s : Download} (hState : s.mqttGetState = .cerLink)
    (hLength : s.length = 0) (r : HttpResponse) :
    (s.mqttGetCer parser r).parsed = s.parsed ++ [r.body] ↔
      r.chunked = true ∨ s.ignoreFirstMessage = true ∨ r.pieces.headD [] = [] := by
  obtain ⟨hLink, hParsed, hText⟩ := link_text hState hLength r
  have hCall : (s.mqttGetCer parser r).parsed = s.parsed ++
      [if r.chunked = true ∨ s.ignoreFirstMessage = true then r.body
        else r.pieces.tail.flatten] := by
    rw [mqttGetCer, cleanup_perform, disconnected, if_pos hLink]
    dsimp only
    rw [hParsed, hText]
  rw [hCall, List.append_cancel_left_eq, List.cons.injEq, and_iff_left rfl, ← or_assoc]
  split
  · rename_i hKept
    exact iff_of_true rfl (.inl hKept)
  · rename_i hDropped
    rw [or_iff_right hDropped, HttpResponse.body]
    cases r.pieces with
    | nil => exact iff_of_true rfl rfl
    | cons first rest =>
      exact List.self_eq_append_left

theorem perform_pemText {s : Download} (hState : s.mqttGetState ≠ .cerLink)
    (hLength : s.length = 0) (r : HttpResponse) :
    (s.perform parser r).pemText = r.body ++ [0x0A] ↔ r.body = [] ∨
      r.disconnectInPerform = false ∧
        (r.chunked = false ∨ window s.cerBuffer 0 r.body.length = r.body) := by
  obtain ⟨hDownload, hText⟩ := buffer_text hState hLength r
  have hLeft := hState
  rw [← hDownload] at hLeft
  unfold perform
  cases r.disconnectInPerform with
  | true =>
    rw [if_pos rfl, disconnected_download hLeft, pemText, List.append_cancel_right_eq, eq_comm]
    exact (or_iff_left fun h => nomatch h.1).symm
  | false =>
    rw [if_neg (by nofun), hText, and_iff_right rfl]
    refine (or_iff_right_of_imp fun hEmpty => ?_).symm
    rw [hEmpty]
    exact .inr rfl

theorem cleanup_pems (r : HttpResponse) (s : Download) :
    (s.cleanup parser r).certificatePem = s.certificatePem ∧
      (s.cleanup parser r).privatePem = s.privatePem := by
  unfold cleanup disconnected
  split
  · exact ⟨rfl, rfl⟩
  · split <;> exact ⟨rfl, rfl⟩

theorem perform_length {r : HttpResponse} (hEnd : r.disconnectInPerform = true) (s : Download) :
    (s.perform parser r).length = 0 := by
  rw [perform, if_pos hEnd]
  exact disconnected_length _

theorem cleanup_length {r : HttpResponse} {s : Download}
    (hEnd : r.disconnectInPerform = true → s.length = 0) : (s.cleanup parser r).length = 0 := by
  unfold cleanup
  split
  · rename_i hPerform
    exact hEnd hPerform
  · exact disconnected_length s

/-- Between two requests `length` is 0. -/
theorem step_length {s : Download} (hLength : s.length = 0) (t : Transfer) :
    (s.step parser t).length = 0 := by
  cases t with
  | refused => exact hLength
  | served r =>
    have hPerform : r.disconnectInPerform = true → (s.perform parser r).length = 0 :=
      fun hEnd => perform_length hEnd s
    unfold step
    cases s.mqttGetState with
    | cerLink => exact cleanup_length hPerform
    | cerPemValue =>
      change (mqttGetCerPemFile parser r s).length = 0
      unfold mqttGetCerPemFile
      split
      · exact cleanup_length hPerform
      · exact cleanup_length hPerform
    | privatePemValue =>
      change (mqttGetPrivatePemFile parser r s).length = 0
      unfold mqttGetPrivatePemFile
      dsimp only
      split
      · exact cleanup_length hPerform
      · exact cleanup_length hPerform

theorem mqttGetCerPemFile_certificatePem {r : HttpResponse} (hOk : r.ok = true) (s : Download) :
    (s.mqttGetCerPemFile parser r).certificatePem = (s.perform parser r).pemText := by
  rw [mqttGetCerPemFile, if_pos hOk]
  exact (cleanup_pems r _).1

theorem mqttGetPrivatePemFile_privatePem {r : HttpResponse} (hOk : r.ok = true) (s : Download) :
    (s.mqttGetPrivatePemFile parser r).privatePem = (s.perform parser r).pemText := by
  rw [mqttGetPrivatePemFile, if_pos hOk]
  exact (cleanup_pems r _).2

theorem assemblyLaw_step_iff {s : Download} (hLength : s.length = 0) (t : Transfer) :
    s.AssemblyLaw parser t ↔ s.AssemblySafe t := by
  cases t with
  | refused => exact Iff.rfl
  | served r =>
    cases hState : s.mqttGetState with
    | cerLink =>
      simp only [AssemblyLaw, AssemblySafe, step, hState, if_true]
      exact mqttGetCer_parsed hState hLength r
    | cerPemValue =>
      simp only [AssemblyLaw, AssemblySafe, step, hState, reduceCtorEq, if_false]
      refine forall_congr' fun hOk => ?_
      rw [mqttGetCerPemFile_certificatePem hOk]
      exact perform_pemText (by rw [hState]; nofun) hLength r
    | privatePemValue =>
      simp only [AssemblyLaw, AssemblySafe, step, hState, reduceCtorEq, if_false]
      refine forall_congr' fun hOk => ?_
      rw [mqttGetPrivatePemFile_privatePem hOk]
      exact perform_pemText (by rw [hState]; nofun) hLength r

end Requests

/-- Along a run of requests every text is what the server sent if and only if every response is
one that the callback gets right. -/
theorem assemblyLaw_iff (parser : List UInt8 → Bool) (transfers : List Transfer) :
    Along (step parser) (AssemblyLaw parser) boot transfers ↔
      Along (step parser) AssemblySafe boot transfers :=
  along_congr (J := fun s => s.length = 0) (fun _ t hLength => step_length hLength t)
    (fun _ t hLength => assemblyLaw_step_iff hLength t) rfl

def plainActivation : HttpResponse where
  pieces := [[0x41]]
  chunked := false
  disconnectInPerform := false
  ok := true
  bound := by decide
  nonzero b hb := by
    rw [List.mem_singleton.mp hb]
    decide

theorem first_activation_dropped :
    ¬ Along (step fun _ => true) (AssemblyLaw fun _ => true) boot [.served plainActivation] := by
  intro h
  have hParsed : (boot.step (fun _ => true) (.served plainActivation)).parsed =
      [plainActivation.body] := h.1
  revert hParsed
  decide

end Download

end FcomGateway
