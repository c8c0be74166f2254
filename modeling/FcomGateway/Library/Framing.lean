import Mathlib.Data.List.Basic

/-! # Messages taken from a stream piece by piece

A receiver is called again and again; every call takes what is there and keeps the beginning of a
message for the next one, and a whole message is handed on, to be handled. `Receives` says what a
call makes of one message, and then whole sessions deliver the messages of the stream, whatever
every single call has found there, until the handling of one of them fails.
-/

namespace Framing

universe u v w x

inductive Outcome (β : Type v)
  | failed
  | nothing
  | message (value : β)

structure Call (α : Type u) (β : Type v) (ι : Type w) where
  outcome : Outcome β
  buffer : List α
  input : ι

/-- `state` is what the handling of the messages works on. -/
structure Session (α : Type u) (β : Type v) (ι : Type w) (σ : Type x) where
  delivered : List β
  buffer : List α
  input : ι
  state : σ
  broken : Bool

variable {α : Type u} {β : Type v} {ι : Type w} {σ : Type x}
  (stream : ι → List α) (encode : β → List α) (held : β → Nat)
  (receive : List α → ι → Call α β ι) (handle : σ → β → Bool × σ)

/-- A call behind a failure has no effect; a message is delivered also where its handling fails. -/
def Session.step (s : Session α β ι σ) : Session α β ι σ :=
  if s.broken then s
  else
    let call := receive s.buffer s.input
    match call.outcome with
    | .failed => { s with buffer := call.buffer, input := call.input, broken := true }
    | .nothing => { s with buffer := call.buffer, input := call.input }
    | .message value =>
      let (goesOn, state) := handle s.state value
      { delivered := s.delivered ++ [value]
        buffer := []
        input := call.input
        state := state
        broken := !goesOn }

def Session.run (s : Session α β ι σ) : Nat → Session α β ι σ
  | 0 => s
  | calls + 1 => (Session.run s calls).step receive handle

/-- The messages handled one by one, up to one where this fails. -/
structure Handled (β : Type v) (σ : Type x) where
  taken : List β
  state : σ
  goesOn : Bool

def handleAll : σ → List β → Handled β σ
  | state, [] => ⟨[], state, true⟩
  | state, m :: messages =>
    let (goesOn, next) := handle state m
    if goesOn then
      let later := handleAll next messages
      { later with taken := m :: later.taken }
    else ⟨[m], next, false⟩

/-- The first `r` elements of a message are in the buffer, the others and then `rest` follow. -/
structure Partial (m rest : List α) (r : Nat) (buffer : List α) (input : ι) : Prop where
  buffer : buffer = m.take r
  stream : stream input = m.drop r ++ rest

/-- A buffer has fewer than `held m` elements of a message between two calls. -/
def Holds (m : β) : Prop := 0 < held m ∧ held m ≤ (encode m).length

/-- A call in the middle of a message comes to its end or stays in its middle. -/
def Receives (m : β) : Prop :=
  ∀ {rest : List α} {r : Nat} {buffer : List α} {input : ι}, r < held m →
    Partial stream (encode m) rest r buffer input →
    match (receive buffer input).outcome with
    | .failed => True
    | .nothing => ∃ r' < held m,
        Partial stream (encode m) rest r' (receive buffer input).buffer
          (receive buffer input).input
    | .message value => value = m ∧ stream (receive buffer input).input = rest

/-- At the end of the stream nothing is received. -/
def Rests : Prop :=
  ∀ input, stream input = [] →
    match (receive [] input).outcome with
    | .failed => True
    | .nothing => (receive [] input).buffer = [] ∧ stream (receive [] input).input = []
    | .message _ => False

/-- The messages delivered are the first ones, and the buffer does not have all of the next. -/
structure Faithful (messages : List β) (s : Session α β ι σ) : Prop where
  delivered : s.delivered <+: messages
  next : s.broken = false →
    s.buffer ++ stream s.input = ((messages.drop s.delivered.length).map encode).flatten ∧
      ∀ m ∈ (messages.drop s.delivered.length).head?, s.buffer.length < held m

variable {stream encode held receive handle}

theorem Partial.start (m rest : List α) {input : ι} (h : stream input = m ++ rest) :
    Partial stream m rest 0 [] input := ⟨rfl, h⟩

theorem Partial.append {m rest : List α} {r : Nat} {buffer : List α} {input : ι}
    (h : Partial stream m rest r buffer input) : buffer ++ stream input = m ++ rest := by
  rw [h.buffer, h.stream, ← List.append_assoc, List.take_append_drop]

/-- What `Faithful` says of the buffer in terms of the next message. -/
theorem partial_of_append {m rest buffer : List α} {input : ι}
    (h : buffer ++ stream input = m ++ rest) (hLength : buffer.length ≤ m.length) :
    Partial stream m rest buffer.length buffer input := by
  have hPrefix : buffer <+: m ++ rest := ⟨stream input, h⟩
  have hBuffer : buffer = m.take buffer.length := by
    have hTake := List.prefix_iff_eq_take.mp hPrefix
    rwa [List.take_append_of_le_length hLength] at hTake
  refine ⟨hBuffer, ?_⟩
  have hDrop : stream input = (buffer ++ stream input).drop buffer.length := by
    rw [List.drop_left]
  rw [hDrop, h, List.drop_append_of_le_length hLength]

namespace Faithful

variable {messages : List β} {s : Session α β ι σ}

theorem start (messages : List β) (hHolds : ∀ m ∈ messages, Holds encode held m) {input : ι}
    (h : stream input = (messages.map encode).flatten) (state : σ) :
    Faithful stream encode held messages ⟨[], [], input, state, false⟩ := by
  refine ⟨List.nil_prefix, fun _ => ⟨h, fun m hm => ?_⟩⟩
  exact (hHolds m (List.mem_of_mem_head? hm)).1

theorem step (hHolds : ∀ m ∈ messages, Holds encode held m)
    (hReceives : ∀ m ∈ messages, Receives stream encode held receive m)
    (hRests : Rests stream receive) (h : Faithful stream encode held messages s) :
    Faithful stream encode held messages (s.step receive handle) := by
  rw [Session.step]
  cases hBroken : s.broken with
  | true => rwa [if_pos rfl]
  | false =>
    rw [if_neg Bool.false_ne_true]
    obtain ⟨hStream, hShort⟩ := h.next hBroken
    obtain ⟨left, hLeft⟩ : ∃ left, messages = s.delivered ++ left := by
      obtain ⟨left, hLeft⟩ := h.delivered
      exact ⟨left, hLeft.symm⟩
    have hDrop : messages.drop s.delivered.length = left := by rw [hLeft, List.drop_left]
    rw [hDrop] at hStream hShort
    cases left with
    | nil =>
      obtain ⟨hBuffer, hEnd⟩ := List.append_eq_nil_iff.mp hStream
      have hRest := hRests s.input hEnd
      rw [hBuffer]
      split at hRest
      · rename_i hOutcome
        simp only [hOutcome]
        exact ⟨h.delivered, nofun⟩
      · rename_i hOutcome
        simp only [hOutcome]
        refine ⟨h.delivered, fun _ => ?_⟩
        dsimp only
        rw [hDrop, hRest.1, hRest.2]
        exact ⟨rfl, nofun⟩
      · exact hRest.elim
    | cons m left =>
      have hMem : m ∈ messages := by
        rw [hLeft]
        exact List.mem_append_right _ List.mem_cons_self
      rw [List.map_cons, List.flatten_cons] at hStream
      have hBefore := hShort m rfl
      have hPartial := partial_of_append hStream
        (Nat.le_trans (Nat.le_of_lt hBefore) (hHolds m hMem).2)
      have hCall := hReceives m hMem hBefore hPartial
      split at hCall
      · rename_i hOutcome
        simp only [hOutcome]
        exact ⟨h.delivered, nofun⟩
      · rename_i hOutcome
        simp only [hOutcome]
        obtain ⟨r, hr, hNext⟩ := hCall
        refine ⟨h.delivered, fun _ => ⟨?_, fun m' hm' => ?_⟩⟩
        · dsimp only
          rw [hDrop, hNext.append, List.map_cons, List.flatten_cons]
        · dsimp only at hm' ⊢
          rw [hDrop] at hm'
          cases hm'
          rw [hNext.buffer]
          exact Nat.lt_of_le_of_lt (List.length_take_le r _) hr
      · rename_i hOutcome
        simp only [hOutcome]
        obtain ⟨hValue, hRest⟩ := hCall
        rw [hValue]
        have hNow : messages = (s.delivered ++ [m]) ++ left := by
          rw [hLeft, List.append_assoc, List.singleton_append]
        have hLater : messages.drop (s.delivered ++ [m]).length = left := by
          rw [hNow, List.drop_left]
        refine ⟨⟨left, hNow.symm⟩, fun _ => ?_⟩
        dsimp only
        rw [hLater, hRest]
        refine ⟨rfl, fun m' hm' => ?_⟩
        refine (hHolds m' ?_).1
        rw [hNow]
        exact List.mem_append_right _ (List.mem_of_mem_head? hm')

/-- A receiver that gets every single message delivers all of them, in order and once. -/
theorem run (hHolds : ∀ m ∈ messages, Holds encode held m)
    (hReceives : ∀ m ∈ messages, Receives stream encode held receive m)
    (hRests : Rests stream receive) (h : Faithful stream encode held messages s) (calls : Nat) :
    Faithful stream encode held messages (s.run receive handle calls) := by
  induction calls with
  | zero => exact h
  | succ calls ih => exact ih.step hHolds hReceives hRests

/-- When the stream has come to its end, everything is delivered. -/
theorem complete (hHolds : ∀ m ∈ messages, Holds encode held m)
    (h : Faithful stream encode held messages s) (hAlive : s.broken = false)
    (hEnd : stream s.input = []) : s.delivered = messages := by
  obtain ⟨hStream, hShort⟩ := h.next hAlive
  obtain ⟨left, hLeft⟩ := h.delivered
  have hDrop : messages.drop s.delivered.length = left := by rw [← hLeft, List.drop_left]
  rw [hDrop] at hStream hShort
  cases left with
  | nil => rw [← hLeft, List.append_nil]
  | cons m left =>
    rw [hEnd, List.append_nil, List.map_cons, List.flatten_cons] at hStream
    have hMem : m ∈ messages := by
      rw [← hLeft]
      exact List.mem_append_right _ List.mem_cons_self
    have hHeld := (hHolds m hMem).2
    have hLength := hShort m rfl
    rw [hStream, List.length_append] at hLength
    omega

end Faithful

section Serving

variable {Good : ι → Prop} {least : Nat}

end Serving

end Framing
