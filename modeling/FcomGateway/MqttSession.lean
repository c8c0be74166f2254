import FcomGateway.MqttFate

/-! # The client and its broker

The client, the connection and a broker that answers only what it has received. Frames are the
writes of the client; a connection on which a write was cut off carries nothing more, and what is
under way when a connection ends may still arrive, but its answers are lost.
-/

namespace FcomGateway.Mqtt

structure Session where
  client : MqttClient
  toBroker : List Write
  broken : Bool
  late : List Write
  toClient : List Arrival
  /-- The identifiers that the broker has received in this connection and has yet to answer. -/
  opened : List Nat
  received : List Nat

inductive SessionAction
  | client (a : ClientAction)
  | deliver
  | deliverLate (i : Nat)
  | answer (x : Arrival)
  | send (x : Arrival)

/-- The message that a round of the task reads. -/
def ClientAction.incoming : ClientAction → Option Arrival
  | .round r =>
    match r.disconnect, r.incoming with
    | false, .message x => some x
    | _, _ => none
  | _ => none

def ClientAction.opens (c : MqttClient) : ClientAction → Bool
  | .connect (some _) _ => c.running ∧ c.state = .init
  | _ => false

namespace Session

/-- A frame reaches the broker. -/
def take (s : Session) (w : Write) : Session :=
  match w.item with
  | none => s
  | some item =>
    { s with
      received := s.received ++ [item.handle]
      opened := if item.msgId = 0 then s.opened else s.opened ++ [item.msgId] }

/-- Writes go into the connection, up to the first that was cut off. -/
def carry (s : Session) : List Write → Session
  | [] => s
  | w :: rest =>
    if s.broken then s
    else if w.ok then { s with toBroker := s.toBroker ++ [w] }.carry rest
    else { s with broken := true }

def reopen (s : Session) : Session :=
  { s with
    late := s.late ++ s.toBroker
    toBroker := []
    broken := false
    toClient := []
    opened := [] }

def act (s : Session) (a : ClientAction) : Option Session :=
  (s.client.step a).map fun c =>
    let writes := c.store.writes.drop s.client.store.writes.length
    let s := if a.opens s.client then s.reopen else s
    { s with client := c }.carry writes

/-- An action that the connection or the broker does not allow is none. -/
def step (s : Session) : SessionAction → Option Session
  | .client a =>
    match a.incoming, s.toClient with
    | none, _ => s.act a
    | some x, y :: rest => if x = y then { s with toClient := rest }.act a else none
    | some _, [] => none
  | .deliver =>
    match s.toBroker with
    | [] => none
    | w :: rest => some ({ s with toBroker := rest }.take w)
  | .deliverLate i =>
    (s.late[i]?).map fun w =>
      { s with received := s.received ++ (w.item.map OutboxItem.handle).toList }
  | .answer x =>
    match x.ack with
    | none => none
    | some key =>
      if key.2 ∈ s.opened then
        some { s with toClient := s.toClient ++ [x], opened := s.opened.erase key.2 }
      else none
  | .send x => if x.ack = none then some { s with toClient := s.toClient ++ [x] } else none

def run (s : Session) : List SessionAction → Option Session
  | [] => some s
  | a :: rest => (s.step a).bind fun s => s.run rest

/-- The identifiers of what is under way. -/
def known (s : Session) : List Nat :=
  s.opened ++ s.toClient.filterMap fun x => x.ack.map Prod.snd

/-- An identifier that is drawn is neither that of an item nor under way. -/
def Unused (s : Session) : SessionAction → Prop
  | .client a => a.Unused s.client.store ∧ ∀ id ∈ a.drawn, id ∉ s.known ∧
      ∀ w ∈ s.toBroker, ∀ item ∈ w.item, item.msgId ≠ id
  | _ => True

def RunUnused (s : Session) : List SessionAction → Prop
  | [] => True
  | a :: rest => s.Unused a ∧ ∀ s', s.step a = some s' → s'.RunUnused rest

def initial (bufferLength now : Nat) : Session :=
  ⟨.initial bufferLength now, [], false, [], [], [], []⟩

end Session

/-! ## What is under way belongs to its item -/

/-- Frames stand for the items that have their identifiers, and the identifiers that came back for
items that were received. -/
structure Covered (sent : List Write) (known received : List Nat) (s : Store) : Prop where
  frames : ∀ w ∈ sent, ∀ item ∈ w.item, item.msgId ≠ 0 → ∀ other ∈ s.outbox,
    other.msgId = item.msgId → other.handle = item.handle
  ids : ∀ id ∈ known, ∀ item ∈ s.outbox, item.msgId = id → item.handle ∈ received
  nonzero : 0 ∉ known
  acknowledged : ∀ handle ∈ s.acknowledged, handle ∈ received

variable {sent : List Write} {known received : List Nat} {s s' : Store} {drawn : Option Nat}
  {ack : Option (MessageType × Nat)}

theorem Covered.of_subset (hs : Covered sent known received s) (hOutbox : s'.outbox ⊆ s.outbox)
    (hAcknowledged : ∀ handle ∈ s'.acknowledged, handle ∈ received) :
    Covered sent known received s' where
  frames := fun w hw item hItem hZero other hOther =>
    hs.frames w hw item hItem hZero other (hOutbox hOther)
  ids := fun id hId item hItem => hs.ids id hId item (hOutbox hItem)
  nonzero := hs.nonzero
  acknowledged := hAcknowledged

theorem Intake.covered (h : Intake True drawn s s')
    (hUnused : ∀ id ∈ drawn, id ∉ known ∧ ∀ w ∈ sent, ∀ item ∈ w.item, item.msgId ≠ id)
    (hs : Covered sent known received s) : Covered sent known received s' := by
  cases h with
  | none => exact hs
  | accept new memory _ hDrawn _ =>
    rw [Store.accept]
    split
    · refine ⟨?_, ?_, hs.nonzero, hs.acknowledged⟩
      · intro w hw item hItem hZero other hOther hId
        rcases List.mem_append.mp hOther with hOld | hLast
        · exact hs.frames w hw item hItem hZero other hOld hId
        · rw [List.mem_singleton.mp hLast] at hId
          have hDrawn := hDrawn (hId ▸ hZero)
          exact absurd hId.symm ((hUnused new.msgId hDrawn).2 w hw item hItem)
      · intro id hIds item hItem hId
        rcases List.mem_append.mp hItem with hOld | hLast
        · exact hs.ids id hIds item hOld hId
        · rw [List.mem_singleton.mp hLast] at hId
          have hZero : new.msgId ≠ 0 := fun hZero => hs.nonzero (hZero ▸ hId ▸ hIds)
          exact absurd (hId ▸ hIds) (hUnused new.msgId (hDrawn hZero)).1
    · exact hs.of_subset (List.Subset.refl _) hs.acknowledged

theorem Move.covered (hWf : s.Wellformed True) (h : Move True ack s s')
    (hAck : ∀ key ∈ ack, key.2 ∈ known) (hs : Covered sent known received s) :
    ∃ new, s'.writes = s.writes ++ new ∧ Covered (sent ++ new) known received s' := by
  have hSame : ∀ s' : Store, s'.outbox ⊆ s.outbox → s'.writes = s.writes →
      (∀ handle ∈ s'.acknowledged, handle ∈ received) →
      ∃ new, s'.writes = s.writes ++ new ∧ Covered (sent ++ new) known received s' := by
    intro s' hOutbox hWrites hAcknowledged
    refine ⟨[], by rw [hWrites, List.append_nil], ?_⟩
    rw [List.append_nil]
    exact hs.of_subset hOutbox hAcknowledged
  cases h with
  | touch w outbox hTouches hWrite =>
    refine ⟨w.toList, rfl, ?_, ?_, hs.nonzero, hs.acknowledged⟩
    · intro w' hw' item hItem hZero other hOther hId
      obtain ⟨old, hOld, hTouch⟩ := touches_back hTouches hOther
      rw [hTouch.same.msgId] at hId
      rw [hTouch.same.handle]
      rcases List.mem_append.mp hw' with hBefore | hLast
      · exact hs.frames w' hBefore item hItem hZero old hOld hId
      · obtain ⟨item₀, hItem₀, hFor, -⟩ := hWrite w' (Option.mem_toList.mp hLast) item hItem
        have hIds : old.msgId = item₀.msgId := hId.trans hFor.msgId
        have hEq := hWf.same_id trivial hOld hItem₀ hIds (hId ▸ hZero)
        rw [hEq, hFor.handle]
    · intro id hIds item hItem hId
      obtain ⟨old, hOld, hTouch⟩ := touches_back hTouches hItem
      rw [hTouch.same.msgId] at hId
      rw [hTouch.same.handle]
      exact hs.ids id hIds old hOld hId
  | acknowledge msgType msgId _ hKey h =>
    obtain ⟨-, before, item, after, hOutbox, hId, -, rfl⟩ := acknowledge_cases h
    refine hSame _ ?_ rfl ?_
    · rw [hOutbox]
      exact ((List.sublist_cons_self _ _).append_left before).subset
    · intro handle hHandle
      rcases List.mem_append.mp hHandle with hOld | hLast
      · exact hs.acknowledged handle hOld
      · rw [List.mem_singleton.mp hLast]
        refine hs.ids msgId (hAck _ hKey) item ?_ hId
        rw [hOutbox]
        exact List.mem_append_right _ List.mem_cons_self
  | deleteExpired now =>
    exact hSame _ (List.filter_subset_self _) rfl hs.acknowledged
  | hand item =>
    rcases hand_cases s item with hNone | ⟨before, found, after, hOutbox, -, hEq⟩
    · rw [hNone]
      exact hSame s (List.Subset.refl _) rfl hs.acknowledged
    · rw [hEq]
      refine hSame _ ?_ rfl hs.acknowledged
      rw [hOutbox]
      exact ((List.sublist_cons_self _ _).append_left before).subset
  | clear => exact hSame _ (List.nil_subset _) rfl hs.acknowledged

theorem Covered.mono (hs : Covered sent known received s) {sent' : List Write}
    {known' received' : List Nat} (hSent : sent' ⊆ sent) (hKnown : known' ⊆ known)
    (hReceived : received ⊆ received') : Covered sent' known' received' s where
  frames := fun w hw => hs.frames w (hSent hw)
  ids := fun id hId item hItem hEq => hReceived (hs.ids id (hKnown hId) item hItem hEq)
  nonzero := fun hZero => hs.nonzero (hKnown hZero)
  acknowledged := fun handle hHandle => hReceived (hs.acknowledged handle hHandle)

theorem Moves.covered (hWf : s.Wellformed True) (h : Moves True ack s s')
    (hAck : ∀ key ∈ ack, key.2 ∈ known) (hs : Covered sent known received s) :
    ∃ new, s'.writes = s.writes ++ new ∧ Covered (sent ++ new) known received s' := by
  induction h with
  | refl => exact ⟨[], (List.append_nil _).symm, by rwa [List.append_nil]⟩
  | tail hMoves hStep ih =>
    obtain ⟨new, hWrites, hCovered⟩ := ih
    obtain ⟨next, hNext, hCovered⟩ := hStep.covered (Moves.wellformed hMoves hWf) hAck hCovered
    refine ⟨new ++ next, ?_, ?_⟩
    · rw [hNext, hWrites, List.append_assoc]
    · rwa [← List.append_assoc]

theorem Acts.covered (hWf : s.Wellformed True) (h : Acts True drawn ack s s')
    (hUnused : ∀ id ∈ drawn, id ∉ known ∧ ∀ w ∈ sent, ∀ item ∈ w.item, item.msgId ≠ id)
    (hAck : ∀ key ∈ ack, key.2 ∈ known) (hs : Covered sent known received s) :
    ∃ new, s'.writes = s.writes ++ new ∧ Covered (sent ++ new) known received s' := by
  obtain ⟨s₁, hIntake, hMoves⟩ := h
  have hSame : s₁.writes = s.writes := by
    cases hIntake with
    | none => rfl
    | accept item memory _ _ _ =>
      rw [Store.accept]
      split
      · rfl
      · rfl
  rw [← hSame]
  exact hMoves.covered (hIntake.wellformed hWf) hAck (hIntake.covered hUnused hs)

/-! ## The steps of a session -/

namespace Session

theorem mem_known {s : Session} {id : Nat} :
    id ∈ s.known ↔ id ∈ s.opened ∨ ∃ x ∈ s.toClient, ∃ key ∈ x.ack, key.2 = id := by
  rw [known, List.mem_append, List.mem_filterMap]
  simp only [Option.map_eq_some_iff, Option.mem_def]

theorem carry_fields (s : Session) (writes : List Write) :
    (s.carry writes).toBroker ⊆ s.toBroker ++ writes ∧ (s.carry writes).client = s.client ∧
      (s.carry writes).opened = s.opened ∧ (s.carry writes).toClient = s.toClient ∧
      (s.carry writes).received = s.received := by
  induction writes generalizing s with
  | nil => exact ⟨List.subset_append_left _ _, rfl, rfl, rfl, rfl⟩
  | cons w rest ih =>
    rw [carry]
    split
    · exact ⟨List.subset_append_left _ _, rfl, rfl, rfl, rfl⟩
    · split
      · obtain ⟨hBroker, hFields⟩ := ih { s with toBroker := s.toBroker ++ [w] }
        refine ⟨?_, hFields⟩
        rwa [List.append_assoc] at hBroker
      · exact ⟨List.subset_append_left _ _, rfl, rfl, rfl, rfl⟩

structure Sound (s : Session) : Prop where
  wellformed : s.client.store.Wellformed True
  balanced : s.client.store.Balanced
  covered : Covered s.toBroker s.known s.received s.client.store

theorem ack_incoming {a : ClientAction} {key : MessageType × Nat} (h : key ∈ a.ack) :
    ∃ x, a.incoming = some x ∧ key ∈ x.ack := by
  cases a with
  | round r =>
    rcases hDisconnect : r.disconnect with _ | _
    · rcases hMessage : r.incoming with _ | _ | x
      · rw [ClientAction.ack, hDisconnect, hMessage] at h
        cases h
      · rw [ClientAction.ack, hDisconnect, hMessage] at h
        cases h
      · rw [ClientAction.ack, hDisconnect, hMessage] at h
        refine ⟨x, ?_, h⟩
        rw [ClientAction.incoming, hDisconnect, hMessage]
    · rw [ClientAction.ack, hDisconnect] at h
      cases h
  | _ => cases h

/-- An action of the client, where what it reads may have been taken from the connection. -/
theorem Sound.act {s s₀ s' : Session} (hs : s.Sound) {a : ClientAction} (h : s₀.act a = some s')
    (hUnused : s.Unused (.client a)) (hAck : ∀ key ∈ a.ack, key.2 ∈ s.known)
    (hClient : s₀.client = s.client) (hBroker : s₀.toBroker = s.toBroker)
    (hKnown : s₀.known ⊆ s.known) (hReceived : s₀.received = s.received) : s'.Sound := by
  obtain ⟨c, hStep, rfl⟩ := Option.map_eq_some_iff.mp h
  rw [hClient] at hStep
  have hActs := step_acts hs.wellformed a (fun _ => hUnused.1) hStep
  have hWf := hActs.preserves Intake.wellformed Move.wellformed hs.wellformed
  have hBalanced := hActs.preserves Intake.balanced Move.balanced hs.balanced
  obtain ⟨new, hWrites, hCovered⟩ := hActs.covered hs.wellformed hUnused.2 hAck hs.covered
  have hDrop : c.store.writes.drop s₀.client.store.writes.length = new := by
    rw [hWrites, hClient, List.drop_left]
  dsimp only
  rw [hDrop]
  have hBase : ∀ s₁ : Session, s₁.toBroker ⊆ s.toBroker → s₁.known ⊆ s.known →
      s₁.received = s.received → Sound ({ s₁ with client := c }.carry new) := by
    intro s₁ hBroker₁ hKnown₁ hReceived₁
    obtain ⟨hSent, hClient₁, hOpened₁, hToClient₁, hCarried⟩ :=
      carry_fields { s₁ with client := c } new
    have hSame : ({ s₁ with client := c }.carry new).known = s₁.known := by
      rw [known, known, hOpened₁, hToClient₁]
    refine ⟨by rwa [hClient₁], by rwa [hClient₁], ?_⟩
    rw [hClient₁]
    refine hCovered.mono ?_ (hSame ▸ hKnown₁) ?_
    · exact List.Subset.trans hSent (List.append_subset.mpr
        ⟨List.Subset.trans hBroker₁ (List.subset_append_left _ _), List.subset_append_right _ _⟩)
    · rw [hCarried]
      exact hReceived₁ ▸ List.Subset.refl _
  split
  · exact hBase s₀.reopen (List.nil_subset _) (List.nil_subset _) hReceived
  · exact hBase s₀ (hBroker ▸ List.Subset.refl _) hKnown hReceived

/-- A frame that is received makes its identifier known. -/
theorem Sound.deliver {s : Session} (hs : s.Sound) {w : Write} {rest : List Write}
    (hQueue : s.toBroker = w :: rest) : ({ s with toBroker := rest }.take w).Sound := by
  have hRest : rest ⊆ s.toBroker := by
    rw [hQueue]
    exact List.subset_cons_self _ _
  cases hItem : w.item with
  | none =>
    rw [take, hItem]
    exact ⟨hs.wellformed, hs.balanced,
      hs.covered.mono hRest (List.Subset.refl _) (List.Subset.refl _)⟩
  | some item =>
    rw [take, hItem]
    refine ⟨hs.wellformed, hs.balanced, ?_⟩
    have hMore := hs.covered.mono hRest (List.Subset.refl _)
      (List.subset_append_left s.received [item.handle])
    dsimp only
    by_cases hZero : item.msgId = 0
    · rw [if_pos hZero]
      exact hMore
    · rw [if_neg hZero]
      refine ⟨hMore.frames, ?_, ?_, hMore.acknowledged⟩
      · intro id hId other hOther hEq
        rcases mem_known.mp hId with hOpened | hClient
        · rcases List.mem_append.mp hOpened with hOld | hLast
          · exact hMore.ids id (mem_known.mpr (Or.inl hOld)) other hOther hEq
          · have hHandle := hs.covered.frames w (hQueue ▸ List.mem_cons_self) item hItem hZero other
              hOther (hEq.trans (List.mem_singleton.mp hLast))
            rw [hHandle]
            exact List.mem_append_right _ List.mem_cons_self
        · exact hMore.ids id (mem_known.mpr (Or.inr hClient)) other hOther hEq
      · intro hKnown
        rcases mem_known.mp hKnown with hOpened | hClient
        · rcases List.mem_append.mp hOpened with hOld | hLast
          · exact hs.covered.nonzero (mem_known.mpr (Or.inl hOld))
          · exact hZero (List.mem_singleton.mp hLast).symm
        · exact hs.covered.nonzero (mem_known.mpr (Or.inr hClient))

theorem Sound.of_known {s s' : Session} (hs : s.Sound) (hClient : s'.client = s.client)
    (hBroker : s'.toBroker = s.toBroker) (hReceived : s.received ⊆ s'.received)
    (hKnown : s'.known ⊆ s.known) : s'.Sound := by
  refine ⟨hClient ▸ hs.wellformed, hClient ▸ hs.balanced, ?_⟩
  rw [hClient, hBroker]
  exact hs.covered.mono (List.Subset.refl _) hKnown hReceived

theorem Sound.step {s s' : Session} (hs : s.Sound) {a : SessionAction} (hUnused : s.Unused a)
    (h : s.step a = some s') : s'.Sound := by
  cases a with
  | client a =>
    rw [Session.step] at h
    split at h
    · rename_i hNone
      refine hs.act h hUnused (fun key hKey => ?_) rfl rfl (List.Subset.refl _) rfl
      obtain ⟨x, hIncoming, -⟩ := ack_incoming hKey
      rw [hNone] at hIncoming
      cases hIncoming
    · rename_i x y rest hIncoming hQueue
      split at h
      · rename_i hEq
        subst hEq
        refine hs.act h hUnused ?_ rfl rfl ?_ rfl
        · intro key hKey
          obtain ⟨x', hIncoming', hAck⟩ := ack_incoming hKey
          rw [hIncoming] at hIncoming'
          cases hIncoming'
          exact mem_known.mpr (Or.inr ⟨x, hQueue ▸ List.mem_cons_self, key, hAck, rfl⟩)
        · intro id hId
          rcases mem_known.mp hId with hOpened | ⟨x', hx', hAck⟩
          · exact mem_known.mpr (Or.inl hOpened)
          · exact mem_known.mpr (Or.inr ⟨x', hQueue ▸ List.mem_cons_of_mem _ hx', hAck⟩)
      · cases h
    · cases h
  | deliver =>
    rw [Session.step] at h
    split at h
    · cases h
    · rename_i w rest hQueue
      cases h
      exact hs.deliver hQueue
  | deliverLate i =>
    obtain ⟨w, -, rfl⟩ := Option.map_eq_some_iff.mp h
    exact hs.of_known rfl rfl (List.subset_append_left _ _) (List.Subset.refl _)
  | answer x =>
    rw [Session.step] at h
    split at h
    · cases h
    · rename_i key hKey
      split at h
      · rename_i hOpened
        cases h
        refine hs.of_known rfl rfl (List.Subset.refl _) fun id hId => ?_
        rcases mem_known.mp hId with hOld | ⟨x', hx', key', hKey', rfl⟩
        · exact mem_known.mpr (Or.inl (List.mem_of_mem_erase hOld))
        · rcases List.mem_append.mp hx' with hBefore | hLast
          · exact mem_known.mpr (Or.inr ⟨x', hBefore, key', hKey', rfl⟩)
          · rw [List.mem_singleton.mp hLast, hKey] at hKey'
            cases hKey'
            exact mem_known.mpr (Or.inl hOpened)
      · cases h
  | send x =>
    rw [Session.step] at h
    split at h
    · rename_i hNone
      cases h
      refine hs.of_known rfl rfl (List.Subset.refl _) fun id hId => ?_
      rcases mem_known.mp hId with hOld | ⟨x', hx', key, hKey, rfl⟩
      · exact mem_known.mpr (Or.inl hOld)
      · rcases List.mem_append.mp hx' with hBefore | hLast
        · exact mem_known.mpr (Or.inr ⟨x', hBefore, key, hKey, rfl⟩)
        · rw [List.mem_singleton.mp hLast, hNone] at hKey
          cases hKey
    · cases h

theorem Sound.run {s s' : Session} (hs : s.Sound) (actions : List SessionAction)
    (hUnused : s.RunUnused actions) (h : s.run actions = some s') : s'.Sound := by
  induction actions generalizing s with
  | nil =>
    cases h
    exact hs
  | cons a rest ih =>
    obtain ⟨s₁, hStep, hRest⟩ := Option.bind_eq_some_iff.mp h
    exact ih (hs.step hUnused.1 hStep) (hUnused.2 s₁ hStep) hRest

theorem initial_sound (bufferLength now : Nat) : (initial bufferLength now).Sound :=
  ⟨initial_wellformed bufferLength now, ⟨.nil, le_rfl⟩, nofun, nofun, nofun, nofun⟩

/-- Across every order of the client's, the connection's and the broker's steps: what the client
takes for acknowledged has reached the broker, and an item that has not reached it is in the
outbox, was too old, needed no answer or was dropped when the client stopped. -/
theorem run_delivered (bufferLength now : Nat) (actions : List SessionAction) {s : Session}
    (hUnused : (initial bufferLength now).RunUnused actions)
    (h : (initial bufferLength now).run actions = some s) :
    (∀ handle ∈ s.client.store.acknowledged, handle ∈ s.received) ∧
      ∀ handle < s.client.store.nextHandle, handle ∉ s.received →
        handle ∈ s.client.store.outbox.map OutboxItem.handle ∨ handle ∈ s.client.store.expired ∨
          handle ∈ s.client.store.handed ∨ handle ∈ s.client.store.cleared := by
  have hSound := (initial_sound bufferLength now).run actions hUnused h
  refine ⟨hSound.covered.acknowledged, fun handle hOld hMissing => ?_⟩
  have hPlace := hSound.balanced.places.mem_iff.mpr (List.mem_range.mpr hOld)
  simp only [Store.places, List.mem_append] at hPlace
  rcases hPlace with hOutbox | hAcknowledged | hLeft
  · exact Or.inl hOutbox
  · exact absurd (hSound.covered.acknowledged handle hAcknowledged) hMissing
  · exact Or.inr hLeft

/-- The message of `sampleRun`, sent, received and acknowledged. -/
def sampleSession : List SessionAction :=
  [.client (.publish samplePublish [] 0), .client .start,
    .client (.connect (some ⟨⟨[], 0, 0⟩, 1024⟩) 10), .client (.round (sampleRound 20 [8])),
    .deliver, .answer ⟨[0x40, 2, 0, 7], 4⟩,
    .client (.round { sampleRound 40 [] with incoming := .message ⟨[0x40, 2, 0, 7], 4⟩ })]

theorem sampleSession_delivered : ∃ s, (initial 1024 0).run sampleSession = some s ∧
    s.client.store.acknowledged = [0] ∧
    (∀ handle ∈ s.client.store.acknowledged, handle ∈ s.received) ∧
      ∀ handle < s.client.store.nextHandle, handle ∉ s.received →
        handle ∈ s.client.store.outbox.map OutboxItem.handle ∨ handle ∈ s.client.store.expired ∨
          handle ∈ s.client.store.handed ∨ handle ∈ s.client.store.cleared := by
  have hRun : ((initial 1024 0).run sampleSession).map
      (fun s => s.client.store.acknowledged) = some [0] := by decide +kernel
  have hUnused : (initial 1024 0).RunUnused sampleSession :=
    ⟨⟨fun _ _ => nofun, fun _ _ => ⟨nofun, nofun⟩⟩, fun _ _ => ⟨⟨nofun, nofun⟩, fun _ _ =>
      ⟨⟨nofun, nofun⟩, fun _ _ => ⟨⟨nofun, nofun⟩, fun _ _ => ⟨trivial, fun _ _ => ⟨trivial,
        fun _ _ => ⟨⟨nofun, nofun⟩, fun _ _ => trivial⟩⟩⟩⟩⟩⟩⟩
  obtain ⟨s, hSome, hAcknowledged⟩ := Option.map_eq_some_iff.mp hRun
  exact ⟨s, hSome, hAcknowledged, run_delivered 1024 0 sampleSession hUnused hSome⟩

end Session

end FcomGateway.Mqtt
