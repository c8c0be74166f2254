import FcomGateway.Library.EventTrace
import FcomGateway.ModemLine

/-! # Commands to the modem

The task that sends a command and `uart_event_task` share `handle_line`, `state` and the binary
semaphore `process_sem`; each step here is one access to them, and the steps of the two tasks are
interleaved at will. What the modem sends is not fixed: it answers a command with one line that is
a result code to the handler of this command, or not at all, and may send other lines at any time.
-/

namespace FcomGateway.Modem

open EventTrace

/-- The callers of `esp_modem_dte_send_cmd`, with the two of `sim800_set_working_mode` for either
mode. -/
inductive DceCommand
  | sync
  | echo (on : Bool)
  | storeProfile
  | setFlowCtrl
  | definePdpContext
  | hangUp
  | getSignalQuality
  | getBatteryStatus
  | getModuleName
  | getImeiNumber
  | getImsiNumber
  | getOperatorName
  | powerDown
  | exitDataMode
  | resync
  | dial
  | resume
  deriving DecidableEq, Repr

/-- What the caller sets `handle_line` to. -/
def DceCommand.handler : DceCommand → LineHandler
  | sync | echo _ | storeProfile | setFlowCtrl | definePdpContext | hangUp | resync =>
    .handleResponseDefault
  | getSignalQuality => .handleCsq
  | getBatteryStatus => .handleCbc
  | getModuleName => .handleCgmm
  | getImeiNumber => .handleCgsn
  | getImsiNumber => .handleCimi
  | getOperatorName => .handleCops
  | powerDown => .handlePowerDown
  | exitDataMode => .handleExitDataMode
  | dial | resume => .handleAtdPpp

/-- `esp_modem_dce_sync` looks at the state only. -/
def DceCommand.checksReturn : DceCommand → Bool
  | sync => false
  | _ => true

/-- The lines that `esp_dte_handle_line` does not show to the handler. -/
def Skipped (line : List UInt8) : Prop :=
  line.length ≤ 2 ∨ ∀ b ∈ line, b = 0x0D ∨ b = 0x0A

instance (line : List UInt8) : Decidable (Skipped line) := inferInstanceAs (Decidable (_ ∨ _))

/-- A line that is the answer to some command. -/
structure Answer where
  line : List UInt8
  handler : LineHandler
  final : (handler.result line).isSome = true
  shown : ¬ Skipped line

/-! ## The tasks -/

/-- What `modem_dce_t` and `esp_modem_dte_t` hold for both tasks. -/
structure Dte where
  handleLine : Option LineHandler
  state : ModemState
  processSem : Bool

/-- How far the task with the command has come; `ret` is what `esp_modem_dte_send_cmd` will
return. -/
inductive Caller
  | idle
  | installed (c : DceCommand)
  | processing (c : DceCommand)
  | waiting (c : DceCommand)
  | woken (c : DceCommand) (ret : Bool)
  | cleared (c : DceCommand) (ret : Bool)
  deriving DecidableEq, Repr

/-- How far `esp_dte_handle_line` has come: behind the test of `handle_line`, behind the store to
`state`, or in a call of `NULL`. -/
inductive UartTask
  | idle
  | checked (line : List UInt8)
  | decided
  | crashed
  deriving DecidableEq, Repr

structure Returned where
  command : DceCommand
  reply : Option Answer
  ok : Bool

/-- `reply` is what the modem answers to the command that was written last, `owed` what it has
still to send. -/
structure Link where
  dte : Dte
  caller : Caller
  uart : UartTask
  reply : Option Answer
  owed : List Answer
  returned : List Returned

inductive Action
  | begin (c : DceCommand)
  | process
  | write (reply : Option Answer)
  | take
  | timeout
  | clear
  | finish
  | receive (line : List UInt8)
  | call
  | give

/-- What the caller returns `ESP_OK` for. -/
def Dte.returnsOk (dte : Dte) (c : DceCommand) (ret : Bool) : Bool :=
  (ret || !c.checksReturn) && decide (dte.state = .success)

def stepCaller (s : Link) : Action → Caller → Link
  | .begin c, .idle =>
    { s with caller := .installed c, dte := { s.dte with handleLine := some c.handler } }
  | .process, .installed c =>
    { s with caller := .processing c, dte := { s.dte with state := .processing } }
  | .write reply, .processing c =>
    { s with caller := .waiting c, reply := reply, owed := s.owed ++ reply.toList }
  | .take, .waiting c =>
    if s.dte.processSem then
      { s with caller := .woken c true, dte := { s.dte with processSem := false } }
    else s
  | .timeout, .waiting c =>
    if s.dte.processSem then s else { s with caller := .woken c false }
  | .clear, .woken c ret =>
    { s with caller := .cleared c ret, dte := { s.dte with handleLine := none } }
  | .finish, .cleared c ret =>
    { s with
      caller := .idle
      returned := s.returned ++ [⟨c, s.reply, s.dte.returnsOk c ret⟩] }
  | _, _ => s

/-- The answers come in the order of their commands. -/
def Link.received (s : Link) (line : List UInt8) : Link :=
  if s.owed.head?.map Answer.line = some line then { s with owed := s.owed.tail } else s

def stepUart (s : Link) : Action → UartTask → Link
  | .receive line, .idle =>
    if Skipped line ∨ s.dte.handleLine = none then s.received line
    else { s.received line with uart := .checked line }
  | .call, .checked line =>
    match s.dte.handleLine with
    | none => { s with uart := .crashed }
    | some h =>
      match h.result line with
      | none => { s with uart := .idle }
      | some state => { s with uart := .decided, dte := { s.dte with state := state } }
  | .give, .decided => { s with uart := .idle, dte := { s.dte with processSem := true } }
  | _, _ => s

/-- A call of `NULL` ends everything. -/
def step (s : Link) (a : Action) : Link :=
  if s.uart = .crashed then s
  else
    match a with
    | .receive _ | .call | .give => stepUart s a s.uart
    | _ => stepCaller s a s.caller

/-! ## What the modem does -/

/-- A line that is no answer to any command. -/
def Quiet (line : List UInt8) : Prop := ∀ h : LineHandler, h.result line = none

inductive QuietTask : UartTask → Prop
  | idle : QuietTask .idle
  | checked {line : List UInt8} (h : Quiet line) : QuietTask (.checked line)

/-- Nothing is left of the commands before. -/
structure Calm (s : Link) : Prop where
  sem : s.dte.processSem = false
  owed : s.owed = []
  uart : QuietTask s.uart

/-- The answer to a command is a result code to its handler, and no other line is one to any. -/
def Honest (s : Link) : Action → Prop
  | .write (some answer) =>
    ∀ c, s.caller = .processing c → (c.handler.result answer.line).isSome = true
  | .receive line => s.owed.head?.map Answer.line = some line ∨ Quiet line
  | _ => True

/-- An answer that comes at all comes before the time is over. -/
structure Punctual (s : Link) (a : Action) : Prop where
  honest : Honest s a
  timeout : a = .timeout → Calm s

def Returned.answer (r : Returned) : Option ModemState :=
  r.reply.bind fun answer => r.command.handler.result answer.line

/-- The caller reports what the modem has answered to this very command. -/
def Returned.Paired (r : Returned) : Prop := r.ok = true ↔ r.answer = some .success

/-! ## One command -/

/-- A command that was written, and its answer on the way. -/
inductive Answering (s : Link) (c : DceCommand) : Prop
  | deaf (hReply : s.reply = none) (h : Calm s) (hState : s.dte.state = .processing)
  | coming {answer : Answer} (hReply : s.reply = some answer) (hOwed : s.owed = [answer])
    (hSem : s.dte.processSem = false) (hUart : QuietTask s.uart)
    (hState : s.dte.state = .processing)
    (hFinal : (c.handler.result answer.line).isSome = true)
  | arrived {answer : Answer} (hReply : s.reply = some answer) (hOwed : s.owed = [])
    (hSem : s.dte.processSem = false) (hUart : s.uart = .checked answer.line)
    (hFinal : (c.handler.result answer.line).isSome = true)
  | decided {answer : Answer} (hReply : s.reply = some answer) (hOwed : s.owed = [])
    (hSem : s.dte.processSem = false) (hUart : s.uart = .decided)
    (hFinal : c.handler.result answer.line = some s.dte.state)
  | given {answer : Answer} (hReply : s.reply = some answer) (hOwed : s.owed = [])
    (hSem : s.dte.processSem = true) (hUart : QuietTask s.uart)
    (hFinal : c.handler.result answer.line = some s.dte.state)

/-- What the caller has found, when it looks at the state. -/
def Outcome (s : Link) (c : DceCommand) (ret : Bool) : Prop :=
  (⟨c, s.reply, s.dte.returnsOk c ret⟩ : Returned).Paired

/-- Where a command stands between its beginning and its end. -/
def Phase (s : Link) : Prop :=
  match s.caller with
  | .idle => Calm s
  | .installed c => Calm s ∧ s.dte.handleLine = some c.handler
  | .processing c => Calm s ∧ s.dte.handleLine = some c.handler ∧ s.dte.state = .processing
  | .waiting c => s.dte.handleLine = some c.handler ∧ Answering s c
  | .woken c ret | .cleared c ret => Calm s ∧ Outcome s c ret

section Steps

variable {s : Link} {a : Action} {c : DceCommand}

theorem received_empty (hOwed : s.owed = []) (line : List UInt8) : s.received line = s := by
  rw [Link.received, hOwed]
  exact if_neg nofun

theorem received_answer {answer : Answer} (hOwed : s.owed = [answer]) :
    s.received answer.line = { s with owed := [] } := by
  rw [Link.received, hOwed]
  exact if_pos rfl

theorem received_other {answer : Answer} (hOwed : s.owed = [answer]) {line : List UInt8}
    (hLine : Quiet line) : s.received line = s := by
  rw [Link.received, hOwed]
  refine if_neg fun hEq => ?_
  have hFinal := answer.final
  rw [Option.some_inj.mp hEq, hLine answer.handler] at hFinal
  cases hFinal

/-- A line that is no answer changes nothing but where the task stands. -/
theorem quiet_stepUart (hTask : QuietTask s.uart)
    (hReceive : ∀ line, a = .receive line → Quiet line ∧ s.received line = s) :
    ∃ u, stepUart s a s.uart = { s with uart := u } ∧
      (QuietTask u ∨ u = .crashed ∧ s.dte.handleLine = none) := by
  have hKeep : s = { s with uart := s.uart } := rfl
  cases a with
  | receive line =>
    obtain ⟨hLine, hReceived⟩ := hReceive line rfl
    cases hUart : s.uart with
    | idle =>
      rw [stepUart, hReceived]
      split
      · exact ⟨s.uart, hKeep, .inl hTask⟩
      · exact ⟨_, rfl, .inl (.checked hLine)⟩
    | checked | decided | crashed => exact ⟨s.uart, hKeep, .inl hTask⟩
  | call =>
    cases hUart : s.uart with
    | checked line =>
      have hLine : Quiet line := by
        rw [hUart] at hTask
        cases hTask with
        | checked hLine => exact hLine
      rw [stepUart]
      split
      · rename_i hNone
        exact ⟨_, rfl, .inr ⟨rfl, hNone⟩⟩
      · rename_i handler hHandler
        rw [hLine handler]
        exact ⟨_, rfl, .inl .idle⟩
    | idle | decided | crashed => exact ⟨s.uart, hKeep, .inl hTask⟩
  | give =>
    cases hUart : s.uart with
    | decided =>
      rw [hUart] at hTask
      cases hTask
    | idle | checked | crashed => exact ⟨s.uart, hKeep, .inl hTask⟩
  | begin | process | write | take | timeout | clear | finish =>
    exact ⟨s.uart, hKeep, .inl hTask⟩

theorem honest_quiet (hOwed : s.owed = []) (hHonest : Honest s a) :
    ∀ line, a = .receive line → Quiet line ∧ s.received line = s := by
  rintro line rfl
  refine ⟨hHonest.resolve_left fun hHead => ?_, received_empty hOwed line⟩
  rw [hOwed] at hHead
  cases hHead

theorem stepUart_frame (s : Link) (a : Action) :
    (stepUart s a s.uart).caller = s.caller ∧
      (stepUart s a s.uart).dte.handleLine = s.dte.handleLine ∧
      (stepUart s a s.uart).returned = s.returned := by
  have hReceived : ∀ line, (s.received line).caller = s.caller ∧ (s.received line).dte = s.dte ∧
      (s.received line).returned = s.returned := by
    intro line
    rw [Link.received]
    split <;> exact ⟨rfl, rfl, rfl⟩
  unfold stepUart
  split
  · rename_i line hIdle
    obtain ⟨hCaller, hDte, hReturned⟩ := hReceived line
    split
    · exact ⟨hCaller, congrArg Dte.handleLine hDte, hReturned⟩
    · exact ⟨hCaller, congrArg Dte.handleLine hDte, hReturned⟩
  · split
    · exact ⟨rfl, rfl, rfl⟩
    · split <;> exact ⟨rfl, rfl, rfl⟩
  · exact ⟨rfl, rfl, rfl⟩
  · exact ⟨rfl, rfl, rfl⟩

theorem Answering.stepUart (h : Answering s c) (hHandler : s.dte.handleLine = some c.handler)
    (hHonest : Honest s a) : Answering (stepUart s a s.uart) c := by
  have hCalled : ∀ u, QuietTask u ∨ u = .crashed ∧ s.dte.handleLine = none → QuietTask u := by
    intro u hu
    refine hu.resolve_right fun hNone => ?_
    rw [hHandler] at hNone
    cases hNone.2
  cases h with
  | deaf hReply h hState =>
    obtain ⟨u, hStep, hu⟩ := quiet_stepUart h.uart (honest_quiet h.owed hHonest)
    rw [hStep]
    exact .deaf hReply ⟨h.sem, h.owed, hCalled u hu⟩ hState
  | @coming answer hReply hOwed hSem hUart hState hFinal =>
    by_cases hAnswer : a = .receive answer.line
    · rw [hAnswer]
      generalize hTask : s.uart = task at hUart
      cases hUart with
      | idle =>
        rw [Modem.stepUart, received_answer hOwed, if_neg]
        · exact .arrived hReply rfl hSem rfl hFinal
        · rintro (hSkipped | hNone)
          · exact answer.shown hSkipped
          · rw [hHandler] at hNone
            cases hNone
      | checked hLine =>
        have hKept : QuietTask s.uart := hTask ▸ .checked hLine
        exact .coming hReply hOwed hSem hKept hState hFinal
    · obtain ⟨u, hStep, hu⟩ : ∃ u, _ := quiet_stepUart (a := a) hUart fun line hLine => by
        rw [hLine] at hHonest hAnswer
        have hQuiet := hHonest.resolve_left fun hHead => hAnswer (by
          rw [hOwed] at hHead
          rw [Option.some_inj.mp hHead])
        exact ⟨hQuiet, received_other hOwed hQuiet⟩
      rw [hStep]
      exact .coming hReply hOwed hSem (hCalled u hu) hState hFinal
  | @arrived answer hReply hOwed hSem hUart hFinal =>
    rw [hUart]
    cases a with
    | call =>
      obtain ⟨state, hResult⟩ := Option.isSome_iff_exists.mp hFinal
      rw [Modem.stepUart, hHandler]
      dsimp only
      rw [hResult]
      exact .decided hReply hOwed hSem rfl hResult
    | receive | give | begin | process | write | take | timeout | clear | finish =>
      exact .arrived hReply hOwed hSem hUart hFinal
  | decided hReply hOwed hSem hUart hFinal =>
    rw [hUart]
    cases a with
    | give => exact .given hReply hOwed rfl .idle hFinal
    | receive | call | begin | process | write | take | timeout | clear | finish =>
      exact .decided hReply hOwed hSem hUart hFinal
  | given hReply hOwed hSem hUart hFinal =>
    obtain ⟨u, hStep, hu⟩ := quiet_stepUart hUart (honest_quiet hOwed hHonest)
    rw [hStep]
    exact .given hReply hOwed hSem (hCalled u hu) hFinal

theorem Phase.stepUart (h : Phase s) (hHonest : Honest s a) :
    (stepUart s a s.uart).uart = .crashed ∨ Phase (stepUart s a s.uart) := by
  have hCalm : ∀ hCalm : Calm s, ∃ u, Modem.stepUart s a s.uart = { s with uart := u } ∧
      (u = .crashed ∨ Calm { s with uart := u }) := by
    intro hCalm
    obtain ⟨u, hStep, hu⟩ := quiet_stepUart hCalm.uart (honest_quiet hCalm.owed hHonest)
    exact ⟨u, hStep, hu.symm.imp And.left fun hTask => ⟨hCalm.sem, hCalm.owed, hTask⟩⟩
  cases hCaller : s.caller with
  | idle =>
    simp only [Phase, hCaller] at h
    obtain ⟨u, hStep, hu⟩ := hCalm h
    rw [hStep]
    refine hu.imp_right fun hCalm => ?_
    simp only [Phase, hCaller]
    exact ⟨hCalm.sem, hCalm.owed, hCalm.uart⟩
  | installed c | processing c =>
    simp only [Phase, hCaller] at h
    obtain ⟨u, hStep, hu⟩ := hCalm h.1
    rw [hStep]
    refine hu.imp_right fun hCalm => ?_
    simp only [Phase, hCaller]
    exact ⟨⟨hCalm.sem, hCalm.owed, hCalm.uart⟩, h.2⟩
  | woken c ret | cleared c ret =>
    simp only [Phase, hCaller] at h
    obtain ⟨u, hStep, hu⟩ := hCalm h.1
    rw [hStep]
    refine hu.imp_right fun hCalm => ?_
    simp only [Phase, hCaller]
    exact ⟨⟨hCalm.sem, hCalm.owed, hCalm.uart⟩, h.2⟩
  | waiting c =>
    simp only [Phase, hCaller] at h
    obtain ⟨hFrame, hHandler, -⟩ := stepUart_frame s a
    refine .inr ?_
    simp only [Phase, hFrame, hCaller]
    exact ⟨hHandler.trans h.1, h.2.stepUart h.1 hHonest⟩

theorem Answering.take (h : Answering s c) (hSem : s.dte.processSem = true) :
    Calm { s with caller := .woken c true, dte := { s.dte with processSem := false } } ∧
      Outcome { s with caller := .woken c true, dte := { s.dte with processSem := false } } c
        true := by
  cases h with
  | given hReply hOwed hGiven hUart hFinal =>
    refine ⟨⟨rfl, hOwed, hUart⟩, ?_⟩
    rw [Outcome, Returned.Paired, Returned.answer]
    dsimp only
    rw [hReply, Option.bind_some, hFinal, Dte.returnsOk, Bool.true_or, Bool.true_and,
      decide_eq_true_iff, Option.some_inj]
  | deaf _ hCalm =>
    rw [hCalm.sem] at hSem
    cases hSem
  | coming _ _ hNone | arrived _ _ hNone | decided _ _ hNone =>
    rw [hNone] at hSem
    cases hSem

theorem Answering.timeout (h : Answering s c) (hCalm : Calm s) : Outcome s c false := by
  cases h with
  | deaf hReply _ hState =>
    rw [Outcome, Returned.Paired, Returned.answer]
    dsimp only
    rw [hReply, Dte.returnsOk, hState]
    refine iff_of_false ?_ nofun
    rw [decide_eq_false (by decide), Bool.and_false]
    exact Bool.false_ne_true
  | coming _ hOwed =>
    rw [hCalm.owed] at hOwed
    cases hOwed
  | @arrived answer _ _ _ hUart =>
    have hTask := hCalm.uart
    rw [hUart] at hTask
    cases hTask with
    | checked hLine =>
      have hFinal := answer.final
      rw [hLine answer.handler] at hFinal
      cases hFinal
  | decided _ _ _ hUart =>
    have hTask := hCalm.uart
    rw [hUart] at hTask
    cases hTask
  | given _ _ hSem =>
    rw [hCalm.sem] at hSem
    cases hSem

theorem write_answering (hPhase : Calm s) (hState : s.dte.state = .processing)
    {reply : Option Answer} (hHonest : Honest s (.write reply))
    (hCaller : s.caller = .processing c) :
    Answering { s with caller := .waiting c, reply := reply, owed := s.owed ++ reply.toList }
      c := by
  cases reply with
  | none => exact .deaf rfl ⟨hPhase.sem, (List.append_nil _).trans hPhase.owed, hPhase.uart⟩ hState
  | some answer =>
    exact .coming rfl (congrArg (· ++ [answer]) hPhase.owed) hPhase.sem hPhase.uart hState
      (hHonest c hCaller)

theorem Phase.stepCaller (h : Phase s) (hPunctual : Punctual s a) :
    Phase (stepCaller s a s.caller) := by
  cases hCaller : s.caller with
  | idle =>
    cases a with
    | begin c =>
      simp only [Phase, hCaller] at h
      exact ⟨⟨h.sem, h.owed, h.uart⟩, rfl⟩
    | process | write | take | timeout | clear | finish | receive | call | give => exact h
  | installed c =>
    cases a with
    | process =>
      simp only [Phase, hCaller] at h
      exact ⟨⟨h.1.sem, h.1.owed, h.1.uart⟩, h.2, rfl⟩
    | begin | write | take | timeout | clear | finish | receive | call | give => exact h
  | processing c =>
    cases a with
    | write reply =>
      simp only [Phase, hCaller] at h
      exact ⟨h.2.1, write_answering h.1 h.2.2 hPunctual.honest hCaller⟩
    | begin | process | take | timeout | clear | finish | receive | call | give => exact h
  | waiting c =>
    have hAnswering := h
    simp only [Phase, hCaller] at hAnswering
    cases a with
    | take =>
      rw [Modem.stepCaller]
      split
      · rename_i hSem
        exact hAnswering.2.take hSem
      · exact h
    | timeout =>
      have hCalm := hPunctual.timeout rfl
      rw [Modem.stepCaller, hCalm.sem]
      exact ⟨⟨hCalm.sem, hCalm.owed, hCalm.uart⟩, hAnswering.2.timeout hCalm⟩
    | begin | process | write | clear | finish | receive | call | give => exact h
  | woken c ret =>
    cases a with
    | clear =>
      simp only [Phase, hCaller] at h
      exact ⟨⟨h.1.sem, h.1.owed, h.1.uart⟩, h.2⟩
    | begin | process | write | take | timeout | finish | receive | call | give => exact h
  | cleared c ret =>
    cases a with
    | finish =>
      simp only [Phase, hCaller] at h
      exact ⟨h.1.sem, h.1.owed, h.1.uart⟩
    | begin | process | write | take | timeout | clear | receive | call | give => exact h

theorem stepCaller_returned {r : Returned} (h : r ∈ (stepCaller s a s.caller).returned) :
    r ∈ s.returned ∨ ∃ c ret, s.caller = .cleared c ret ∧
      r = ⟨c, s.reply, s.dte.returnsOk c ret⟩ := by
  generalize hCaller : s.caller = caller at h
  unfold stepCaller at h
  split at h
  · exact .inl h
  · exact .inl h
  · exact .inl h
  · split at h
    · exact .inl h
    · exact .inl h
  · split at h
    · exact .inl h
    · exact .inl h
  · exact .inl h
  · rw [List.mem_append, List.mem_singleton] at h
    exact h.imp_right fun hNew => ⟨_, _, rfl, hNew⟩
  · exact .inl h

end Steps

/-! ## Runs -/

/-- Everything reported so far is right, and so is what will be reported next. -/
structure Tracks (s : Link) : Prop where
  paired : ∀ r ∈ s.returned, r.Paired
  phase : s.uart = .crashed ∨ Phase s

theorem Tracks.step {s : Link} {a : Action} (h : Tracks s) (hPunctual : Punctual s a) :
    Tracks (step s a) := by
  rw [Modem.step.eq_def]
  split
  · exact h
  · rename_i hRunning
    have hPhase := h.phase.resolve_left hRunning
    have hCaller : Tracks (stepCaller s a s.caller) := by
      refine ⟨fun r hr => ?_, .inr (hPhase.stepCaller hPunctual)⟩
      obtain hOld | ⟨c, ret, hCleared, rfl⟩ := stepCaller_returned hr
      · exact h.paired r hOld
      · simp only [Phase, hCleared] at hPhase
        exact hPhase.2
    have hUart : Tracks (stepUart s a s.uart) := by
      refine ⟨?_, hPhase.stepUart hPunctual.honest⟩
      rw [(stepUart_frame s a).2.2]
      exact h.paired
    cases a with
    | receive | call | give => exact hUart
    | begin | process | write | take | timeout | clear | finish => exact hCaller

theorem Tracks.run {s : Link} {actions : List Action} (h : Tracks s)
    (hRun : Along Modem.step Punctual s actions) : Tracks (EventTrace.run Modem.step s actions) :=
  (always_of_along (fun _ _ => Tracks.step) h hRun).last

/-! ## What is left of a command spoils the next one -/

def Reaches (s t : Link) : Prop := ∃ actions, Along step Punctual s actions ∧ run step s actions = t

section Reaches

variable {s t u : Link} {c : DceCommand} {reply : Option Answer}

theorem Reaches.refl (s : Link) : Reaches s s := ⟨[], trivial, rfl⟩

theorem Reaches.next (h : Reaches s t) {a : Action} (hStep : step t a = u)
    (hPunctual : Punctual t a) : Reaches s u := by
  obtain ⟨actions, hRun, rfl⟩ := h
  refine ⟨actions ++ [a], hRun.concat hPunctual, ?_⟩
  rw [run_append]
  exact hStep

/-- A line that every modem reports success with. -/
def LineHandler.successLine : LineHandler → List UInt8
  | handleAtdPpp => literal "CONNECT\r\n"
  | handlePowerDown => literal "POWER DOWN\r\n"
  | _ => literal "OK\r\n"

theorem successLine_result (h : LineHandler) : h.result h.successLine = some .success := by
  cases h <;> decide +kernel

theorem successLine_shown (h : LineHandler) : ¬ Skipped h.successLine := by
  cases h <;> decide +kernel

def LineHandler.success (h : LineHandler) : Answer where
  line := h.successLine
  handler := h
  final := Option.isSome_of_eq_some (successLine_result h)
  shown := successLine_shown h

/-- A command with the handler. -/
def LineHandler.command : LineHandler → DceCommand
  | handleResponseDefault => .sync
  | handleCsq => .getSignalQuality
  | handleCbc => .getBatteryStatus
  | handleExitDataMode => .exitDataMode
  | handleAtdPpp => .dial
  | handleCgmm => .getModuleName
  | handleCgsn => .getImeiNumber
  | handleCimi => .getImsiNumber
  | handleCops => .getOperatorName
  | handlePowerDown => .powerDown

section Left

variable (hIdle : s.caller = .idle) (hRunning : s.uart ≠ .crashed)
include hIdle hRunning

end Left

end Reaches

structure Patient (s : Link) (a : Action) : Prop where
  honest : Honest s a
  silent : ∀ c, a = .begin c → s.owed = [] ∧ QuietTask s.uart

/-- No command succeeds that the modem has not reported success to. -/
def Returned.Truthful (r : Returned) : Prop := r.ok = true → r.answer = some .success

/-- The command before its text is written. -/
structure Silent (s : Link) (c : DceCommand) : Prop where
  handler : s.dte.handleLine = some c.handler
  owed : s.owed = []
  uart : QuietTask s.uart

/-- The only answer on the way is that to this command. -/
structure OwnOnly (s : Link) (c : DceCommand) : Prop where
  state : s.dte.state = .success →
    s.reply.bind (fun answer => c.handler.result answer.line) = some .success
  handler : ∀ h, s.dte.handleLine = some h → h = c.handler
  owed : ∀ answer ∈ s.owed, s.reply = some answer
  uart : ∀ line, s.uart = .checked line →
    Quiet line ∨ ∃ answer, s.reply = some answer ∧ answer.line = line

def PatientPhase (s : Link) : Prop :=
  match s.caller with
  | .idle => True
  | .installed c => Silent s c
  | .processing c => Silent s c ∧ s.dte.state = .processing
  | .waiting c | .woken c _ | .cleared c _ => OwnOnly s c

section Patient

variable {s : Link} {a : Action} {c : DceCommand}

theorem Silent.stepUart (h : Silent s c) (hHonest : Honest s a) :
    ∃ u, stepUart s a s.uart = { s with uart := u } ∧ Silent { s with uart := u } c := by
  obtain ⟨u, hStep, hu⟩ := quiet_stepUart h.uart (honest_quiet h.owed hHonest)
  refine ⟨u, hStep, h.handler, h.owed, hu.resolve_right fun hNone => ?_⟩
  rw [h.handler] at hNone
  cases hNone.2

theorem OwnOnly.received (h : OwnOnly s c) (line : List UInt8) : OwnOnly (s.received line) c := by
  rw [Link.received]
  split
  · exact ⟨h.state, h.handler, fun answer hAnswer => h.owed answer (List.mem_of_mem_tail hAnswer),
      h.uart⟩
  · exact h

theorem OwnOnly.stepUart (h : OwnOnly s c) (hHonest : Honest s a) :
    OwnOnly (stepUart s a s.uart) c := by
  generalize hTask : s.uart = task
  cases a with
  | receive line =>
    have hReceived := h.received line
    cases task with
    | idle =>
      rw [Modem.stepUart]
      split
      · exact hReceived
      · refine ⟨hReceived.state, hReceived.handler, hReceived.owed, ?_⟩
        rintro _ ⟨⟩
        refine hHonest.symm.imp_right fun hHead => ?_
        obtain ⟨answer, hAnswer, hLine⟩ := Option.map_eq_some_iff.mp hHead
        have hReply : (s.received line).reply = s.reply := by
          rw [Link.received]
          split <;> rfl
        exact ⟨answer, hReply.trans (h.owed answer (List.mem_of_head? hAnswer)), hLine⟩
    | checked | decided | crashed => exact h
  | call =>
    cases task with
    | checked line =>
      rw [Modem.stepUart]
      split
      · exact ⟨h.state, h.handler, h.owed, nofun⟩
      · rename_i handler hHandler
        split
        · exact ⟨h.state, h.handler, h.owed, nofun⟩
        · rename_i state hResult
          refine ⟨fun hSuccess => ?_, h.handler, h.owed, nofun⟩
          rw [h.handler handler hHandler] at hResult
          obtain hQuiet | ⟨answer, hReply, rfl⟩ := h.uart line hTask
          · rw [hQuiet] at hResult
            cases hResult
          · change s.reply.bind _ = _
            rw [hReply, Option.bind_some, hResult, ← hSuccess]
    | idle | decided | crashed => exact h
  | give =>
    cases task with
    | decided => exact ⟨h.state, h.handler, h.owed, nofun⟩
    | idle | checked | crashed => exact h
  | begin | process | write | take | timeout | clear | finish => exact h

theorem PatientPhase.stepUart (h : PatientPhase s) (hHonest : Honest s a) :
    PatientPhase (stepUart s a s.uart) := by
  have hFrame := (stepUart_frame s a).1
  cases hCaller : s.caller with
  | idle =>
    simp only [PatientPhase, hFrame, hCaller]
  | installed c =>
    simp only [PatientPhase, hCaller] at h
    obtain ⟨u, hStep, hSilent⟩ := h.stepUart hHonest
    rw [hStep]
    simp only [PatientPhase, hCaller]
    exact ⟨hSilent.handler, hSilent.owed, hSilent.uart⟩
  | processing c =>
    simp only [PatientPhase, hCaller] at h
    obtain ⟨u, hStep, hSilent⟩ := h.1.stepUart hHonest
    rw [hStep]
    simp only [PatientPhase, hCaller]
    exact ⟨⟨hSilent.handler, hSilent.owed, hSilent.uart⟩, h.2⟩
  | waiting c | woken c ret | cleared c ret =>
    simp only [PatientPhase, hCaller] at h
    simp only [PatientPhase, hFrame, hCaller]
    exact h.stepUart hHonest

theorem Silent.write (h : Silent s c) (hState : s.dte.state = .processing)
    (reply : Option Answer) :
    OwnOnly { s with caller := .waiting c, reply := reply, owed := s.owed ++ reply.toList } c where
  state hSuccess := by
    rw [hState] at hSuccess
    cases hSuccess
  handler handler hHandler := by
    rw [h.handler] at hHandler
    exact (Option.some_inj.mp hHandler).symm
  owed answer hAnswer := by
    rw [h.owed, List.nil_append, Option.mem_toList] at hAnswer
    exact hAnswer
  uart line hLine := by
    have hTask := h.uart
    rw [hLine] at hTask
    cases hTask with
    | checked hQuiet => exact .inl hQuiet

theorem PatientPhase.stepCaller (h : PatientPhase s) (hPatient : Patient s a) :
    PatientPhase (stepCaller s a s.caller) := by
  cases hCaller : s.caller with
  | idle =>
    cases a with
    | begin c =>
      obtain ⟨hOwed, hUart⟩ := hPatient.silent c rfl
      exact ⟨rfl, hOwed, hUart⟩
    | process | write | take | timeout | clear | finish | receive | call | give => exact h
  | installed c =>
    cases a with
    | process =>
      simp only [PatientPhase, hCaller] at h
      exact ⟨⟨h.handler, h.owed, h.uart⟩, rfl⟩
    | begin | write | take | timeout | clear | finish | receive | call | give => exact h
  | processing c =>
    cases a with
    | write reply =>
      simp only [PatientPhase, hCaller] at h
      exact h.1.write h.2 reply
    | begin | process | take | timeout | clear | finish | receive | call | give => exact h
  | waiting c =>
    have hOwn := h
    simp only [PatientPhase, hCaller] at hOwn
    cases a with
    | take =>
      rw [Modem.stepCaller]
      split
      · exact ⟨hOwn.state, hOwn.handler, hOwn.owed, hOwn.uart⟩
      · exact h
    | timeout =>
      rw [Modem.stepCaller]
      split
      · exact h
      · exact ⟨hOwn.state, hOwn.handler, hOwn.owed, hOwn.uart⟩
    | begin | process | write | clear | finish | receive | call | give => exact h
  | woken c ret =>
    cases a with
    | clear =>
      simp only [PatientPhase, hCaller] at h
      exact ⟨h.state, nofun, h.owed, h.uart⟩
    | begin | process | write | take | timeout | finish | receive | call | give => exact h
  | cleared c ret =>
    cases a with
    | finish => exact trivial
    | begin | process | write | take | timeout | clear | receive | call | give => exact h

end Patient

/-- Nothing false has been reported, and nothing false will be reported next. -/
structure Faithful (s : Link) : Prop where
  truthful : ∀ r ∈ s.returned, r.Truthful
  phase : PatientPhase s

theorem Faithful.step {s : Link} {a : Action} (h : Faithful s) (hPatient : Patient s a) :
    Faithful (step s a) := by
  have hCaller : Faithful (stepCaller s a s.caller) := by
    refine ⟨fun r hr => ?_, h.phase.stepCaller hPatient⟩
    obtain hOld | ⟨c, ret, hCleared, rfl⟩ := stepCaller_returned hr
    · exact h.truthful r hOld
    · have hOwn := h.phase
      simp only [PatientPhase, hCleared] at hOwn
      intro hOk
      rw [Dte.returnsOk, Bool.and_eq_true, decide_eq_true_iff] at hOk
      exact hOwn.state hOk.2
  have hUart : Faithful (stepUart s a s.uart) := by
    refine ⟨?_, h.phase.stepUart hPatient.honest⟩
    rw [(stepUart_frame s a).2.2]
    exact h.truthful
  rw [Modem.step.eq_def]
  split
  · exact h
  · cases a with
    | receive | call | give => exact hUart
    | begin | process | write | take | timeout | clear | finish => exact hCaller

end FcomGateway.Modem
