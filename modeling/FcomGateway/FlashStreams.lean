import FcomGateway.Library.Handles
import FcomGateway.TableSave

/-! # The streams of the flash files

Ten functions open a file, use it and close it. The readers test what `fopen` gave, the savers of
the texts do not, and the two functions for the table close in a way of their own. What `fopen`
gives is an outcome: `none` is `NULL`, and a number may come again once its file is closed.
-/

namespace FcomGateway.FlashStreams

open Ledger

inductive OpenMode
  | read
  | write
  deriving DecidableEq, Repr

inductive StreamOp
  | fopen (path : String) (mode : OpenMode) (file : Option Nat)
  | fputs (text : List UInt8) (file : Option Nat)
  | fread (size count : Nat) (file : Option Nat)
  | fwrite (size count : Nat) (file : Option Nat)
  | fseek (file : Option Nat) (offset : Int)
  | fclose (file : Option Nat)
  deriving DecidableEq, Repr

namespace StreamOp

def opened? : StreamOp → Option Nat
  | fopen _ _ file => file
  | _ => none

def passed? : StreamOp → Option (Option Nat)
  | fopen _ _ _ => none
  | fputs _ file | fread _ _ file | fwrite _ _ file | fseek file _ | fclose file => some file

def closed? : StreamOp → Option Nat
  | fclose file => file
  | _ => none

end StreamOp

/-- The operations of a call and what it returns; a function that saves returns nothing. -/
structure StreamRun where
  ops : List StreamOp
  returned : Option Bool

/-! ## The functions -/

/-- What `fopen` gave is not tested. -/
def saveText (path : String) (text : List UInt8) (file : Option Nat) : StreamRun where
  ops := [.fopen path .write file, .fputs text file, .fclose file]
  returned := none

def readText (path : String) (count : Nat) (file : Option Nat) : StreamRun :=
  if file = none then ⟨[.fopen path .read file], some false⟩
  else ⟨[.fopen path .read file, .fread 1 count file, .fclose file], some true⟩

def flashClientPrivatePemSave (privatePem : List UInt8) : Option Nat → StreamRun :=
  saveText "/spiffs/private_pem.txt" privatePem

def flashClientCertPemSave (certificatePem : List UInt8) : Option Nat → StreamRun :=
  saveText "/spiffs/certificate_pem.txt" certificatePem

def flashClientIdSave (clientId : List UInt8) : Option Nat → StreamRun :=
  saveText "/spiffs/client_id.txt" clientId

def flashClientIdRead : Option Nat → StreamRun := readText "/spiffs/client_id.txt" 50

def flashClientPrivatePemRead : Option Nat → StreamRun :=
  readText "/spiffs/private_pem.txt" 2000

def flashClientCertPemRead : Option Nat → StreamRun :=
  readText "/spiffs/certificate_pem.txt" 2000

def flashSavePairKey (mPairToken : List UInt8) : Option Nat → StreamRun :=
  saveText "/spiffs/pair.txt" mPairToken

def flashReadPairKey : Option Nat → StreamRun := readText "/spiffs/pair.txt" 50

/-- `fclose` stands behind the test and not inside it. -/
def flashSaveSensorData (file : Option Nat) : StreamRun where
  ops := .fopen "/spiffs/sensor_data.txt" .write file ::
    ((if file ≠ none then [.fwrite SENSOR_DATA_SIZE 1 file] else []) ++ [.fclose file])
  returned := none

/-- The file is closed in both branches of the test, and again at the end of a run that read. -/
def flashReadSensorData (file : Option Nat) : StreamRun :=
  let opening := .fopen "/spiffs/sensor_data.txt" .read file
  if file ≠ none then
    ⟨[opening, .fread SENSOR_DATA_SIZE 1 file, .fseek file 0, .fclose file, .fclose file],
      some true⟩
  else ⟨[opening, .fclose file], some false⟩

inductive FlashCall
  | clientPrivatePemSave (privatePem : List UInt8)
  | clientCertPemSave (certificatePem : List UInt8)
  | clientIdSave (clientId : List UInt8)
  | clientIdRead
  | clientPrivatePemRead
  | clientCertPemRead
  | savePairKey (mPairToken : List UInt8)
  | readPairKey
  | saveSensorData
  | readSensorData
  deriving DecidableEq, Repr

namespace FlashCall

def run : FlashCall → Option Nat → StreamRun
  | clientPrivatePemSave privatePem => flashClientPrivatePemSave privatePem
  | clientCertPemSave certificatePem => flashClientCertPemSave certificatePem
  | clientIdSave clientId => flashClientIdSave clientId
  | clientIdRead => flashClientIdRead
  | clientPrivatePemRead => flashClientPrivatePemRead
  | clientCertPemRead => flashClientCertPemRead
  | savePairKey mPairToken => flashSavePairKey mPairToken
  | readPairKey => flashReadPairKey
  | saveSensorData => flashSaveSensorData
  | readSensorData => flashReadSensorData

/-- A file that is saved could be opened, and the table is not read. -/
def Safe : FlashCall → Option Nat → Prop
  | clientPrivatePemSave _, file | clientCertPemSave _, file | clientIdSave _, file
  | savePairKey _, file | saveSensorData, file => file ≠ none
  | clientIdRead, _ | clientPrivatePemRead, _ | clientCertPemRead, _ | readPairKey, _ => True
  | readSensorData, _ => False

end FlashCall

/-- A call and what its `fopen` gives. -/
abbrev Outcome := FlashCall × Option Nat

def Outcome.ops (c : Outcome) : List StreamOp := (c.1.run c.2).ops

def streamLog (calls : List Outcome) : List StreamOp := calls.flatMap Outcome.ops

abbrev Held : List StreamOp → StreamOp → Prop :=
  Handles.Held StreamOp.passed? StreamOp.opened? StreamOp.closed?

/-- No operation gets `NULL` or a file that is closed, and each file is closed exactly once. -/
structure StreamLaw (log : List StreamOp) : Prop where
  held : Justified Held log
  closedOnce : log.filterMap StreamOp.closed? = log.filterMap StreamOp.opened?

/-! ## The calls one by one -/

section Calls

variable {h : Nat} {log : List StreamOp}

def Session (h : Nat) (ops : List StreamOp) : Prop :=
  ∃ path mode uses, ops = .fopen path mode (some h) :: (uses ++ [.fclose (some h)]) ∧
    ∀ op ∈ uses, Handles.Uses StreamOp.passed? StreamOp.opened? StreamOp.closed? h op

theorem fopen_opens (path : String) (mode : OpenMode) (h : Nat) :
    Handles.Opens StreamOp.passed? StreamOp.opened? StreamOp.closed? h
      (.fopen path mode (some h)) :=
  ⟨rfl, rfl, rfl⟩

theorem fclose_closes (h : Nat) :
    Handles.Closes StreamOp.passed? StreamOp.opened? StreamOp.closed? h (.fclose (some h)) :=
  ⟨rfl, rfl, rfl⟩

theorem session_of_use {path : String} {mode : OpenMode} {op : StreamOp}
    (hUse : Handles.Uses StreamOp.passed? StreamOp.opened? StreamOp.closed? h op) :
    Session h [.fopen path mode (some h), op, .fclose (some h)] :=
  ⟨path, mode, [op], rfl, by rwa [List.forall_mem_singleton]⟩

theorem Session.justified {ops : List StreamOp} (hOps : Session h ops)
    (hLog : Justified Held log) : Justified Held (log ++ ops) := by
  obtain ⟨path, mode, uses, rfl, hUses⟩ := hOps
  exact Handles.session_justified (fopen_opens path mode h) hUses (fclose_closes h) hLog

theorem Session.balanced {ops : List StreamOp} (hOps : Session h ops) :
    ops.filterMap StreamOp.closed? = ops.filterMap StreamOp.opened? := by
  obtain ⟨path, mode, uses, rfl, hUses⟩ := hOps
  exact Handles.session_balanced (fopen_opens path mode h) hUses (fclose_closes h)

theorem Session.answered {ops : List StreamOp} (hOps : Session h ops) :
    Answered StreamOp.opened? StreamOp.closed? ops := by
  obtain ⟨path, mode, uses, rfl, hUses⟩ := hOps
  exact Handles.session_answered (fopen_opens path mode h) hUses (fclose_closes h)

/-- What a call does with a file that was opened, unless it reads the table. -/
theorem session_of_opened {call : FlashCall} (hCall : call ≠ .readSensorData) (h : Nat) :
    Session h (call.run (some h)).ops := by
  cases call with
  | clientPrivatePemSave _ | clientCertPemSave _ | clientIdSave _ | savePairKey _ =>
    exact session_of_use ⟨rfl, rfl, rfl⟩
  | clientIdRead | clientPrivatePemRead | clientCertPemRead | readPairKey =>
    exact session_of_use ⟨rfl, rfl, rfl⟩
  | saveSensorData => exact session_of_use ⟨rfl, rfl, rfl⟩
  | readSensorData => exact absurd rfl hCall

/-- The table is read in one opening of its file, with a second `fclose` behind it. -/
theorem readSensorData_ops (h : Nat) : ∃ ops, Session h (ops ++ [.fclose (some h)]) ∧
    Outcome.ops (.readSensorData, some h) = ops ++ [.fclose (some h)] ++ [.fclose (some h)] := by
  refine ⟨[.fopen "/spiffs/sensor_data.txt" .read (some h), .fread SENSOR_DATA_SIZE 1 (some h),
    .fseek (some h) 0], ⟨_, _, _, rfl, ?_⟩, rfl⟩
  rw [List.forall_mem_cons, List.forall_mem_singleton]
  exact ⟨⟨rfl, rfl, rfl⟩, ⟨rfl, rfl, rfl⟩⟩

/-- A safe call is an opening of a file, or an `fopen` that failed and no more. -/
theorem FlashCall.Safe.ops {c : Outcome} (hSafe : c.1.Safe c.2) :
    (∃ h, Session h c.ops) ∨ ∃ path, c.ops = [.fopen path .read none] := by
  obtain ⟨call, file⟩ := c
  have hTable : call ≠ .readSensorData := by
    rintro rfl
    exact hSafe
  cases file with
  | some h => exact .inl ⟨h, session_of_opened hTable h⟩
  | none =>
    cases call with
    | clientPrivatePemSave _ | clientCertPemSave _ | clientIdSave _ | savePairKey _
    | saveSensorData => exact absurd rfl hSafe
    | clientIdRead | clientPrivatePemRead | clientCertPemRead | readPairKey =>
      exact .inr ⟨_, rfl⟩
    | readSensorData => exact absurd rfl hTable

theorem safe_justified {c : Outcome} (hSafe : c.1.Safe c.2) (hLog : Justified Held log) :
    Justified Held (log ++ c.ops) := by
  obtain ⟨h, hSession⟩ | ⟨path, hOps⟩ := hSafe.ops
  · exact hSession.justified hLog
  · rw [hOps]
    exact justified_concat_iff.mpr ⟨hLog, fun _ hFile => nomatch hFile⟩

theorem safe_balanced {c : Outcome} (hSafe : c.1.Safe c.2) :
    c.ops.filterMap StreamOp.closed? = c.ops.filterMap StreamOp.opened? := by
  obtain ⟨h, hSession⟩ | ⟨path, hOps⟩ := hSafe.ops
  · exact hSession.balanced
  · rw [hOps]
    rfl

/-- An operation that gets `NULL` spoils the log from there on. -/
theorem not_justified_null {path : String} {mode : OpenMode} {op : StreamOp}
    {after : List StreamOp} (hNull : op.passed? = some none) :
    ¬ Justified Held (log ++ .fopen path mode none :: op :: after) := by
  intro hHeld
  rw [List.append_cons] at hHeld
  exact Handles.not_held_null hNull (hHeld (log ++ [.fopen path mode none]) op after rfl)

theorem unsafe_not_justified {c : Outcome} (hUnsafe : ¬ c.1.Safe c.2) (log : List StreamOp) :
    ¬ Justified Held (log ++ c.ops) := by
  obtain ⟨call, file⟩ := c
  cases file with
  | none =>
    cases call with
    | clientPrivatePemSave _ | clientCertPemSave _ | clientIdSave _ | savePairKey _ =>
      exact not_justified_null rfl
    | saveSensorData | readSensorData => exact not_justified_null rfl
    | clientIdRead | clientPrivatePemRead | clientCertPemRead | readPairKey =>
      exact absurd trivial hUnsafe
  | some h =>
    cases call with
    | clientPrivatePemSave _ | clientCertPemSave _ | clientIdSave _ | savePairKey _
    | saveSensorData => exact absurd (Option.some_ne_none h) hUnsafe
    | clientIdRead | clientPrivatePemRead | clientCertPemRead | readPairKey =>
      exact absurd trivial hUnsafe
    | readSensorData =>
      obtain ⟨ops, _, hOps⟩ := readSensorData_ops h
      rw [hOps, ← List.append_assoc, ← List.append_assoc]
      exact Handles.not_held_twice rfl rfl rfl

end Calls

/-! ## Sequences of calls -/

theorem balanced_of_safe {calls : List Outcome} (h : ∀ c ∈ calls, c.1.Safe c.2) :
    (streamLog calls).filterMap StreamOp.closed? =
      (streamLog calls).filterMap StreamOp.opened? := by
  rw [streamLog]
  induction calls with
  | nil => rfl
  | cons c rest ih =>
    rw [List.forall_mem_cons] at h
    rw [List.flatMap_cons, List.filterMap_append, List.filterMap_append, safe_balanced h.1,
      ih h.2]

theorem justified_iff (calls : List Outcome) :
    Justified Held (streamLog calls) ↔ ∀ c ∈ calls, c.1.Safe c.2 :=
  justified_flatMap_iff (fun _ hSafe _ hLog => safe_justified hSafe hLog)
    (fun _ hUnsafe log => unsafe_not_justified hUnsafe log) calls

/-- The discipline holds in the sequences that do not read the table and can open every file that
they save, and in no others. -/
theorem streamLaw_iff (calls : List Outcome) :
    StreamLaw (streamLog calls) ↔ ∀ c ∈ calls, c.1.Safe c.2 := by
  constructor
  · exact fun hLaw => (justified_iff calls).mp hLaw.held
  · exact fun hSafe => ⟨(justified_iff calls).mpr hSafe, balanced_of_safe hSafe⟩

theorem table_closed_twice : ¬ StreamLaw (streamLog [(.readSensorData, some 1)]) := by
  intro hLaw
  exact unsafe_not_justified (c := (.readSensorData, some 1)) id [] hLaw.held

theorem outcome_answered (c : Outcome) : Answered StreamOp.opened? StreamOp.closed? c.ops := by
  obtain ⟨call, file⟩ := c
  cases file with
  | none =>
    rw [answered_iff_pending]
    cases call <;> rfl
  | some h =>
    by_cases hTable : call = .readSensorData
    · obtain ⟨ops, hSession, hOps⟩ := readSensorData_ops h
      rw [hTable, hOps]
      exact hSession.answered.append (answered_iff_pending.mpr rfl)
    · exact (session_of_opened hTable h).answered

theorem streamLog_answered (calls : List Outcome) :
    Answered StreamOp.opened? StreamOp.closed? (streamLog calls) := by
  rw [streamLog]
  induction calls with
  | nil => exact answered_nil
  | cons c rest ih =>
    rw [List.flatMap_cons]
    exact (outcome_answered c).append ih

end FcomGateway.FlashStreams
