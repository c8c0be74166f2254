import FcomGateway.MqttClient
import Mathlib.Data.List.Forall2
import Mathlib.Logic.Relation

/-! # What an action does to the outbox

An action of the client may first accept an item; then it is a sequence of moves on the store.
Items are touched, where a write may stand behind it, or they leave. Some of what the moves say
holds only where identifiers are new when they are drawn, which is the parameter `fresh`.
-/

namespace FcomGateway.Mqtt

/-- A message that is kept until it is acknowledged. -/
def OutboxItem.Important (item : OutboxItem) : Prop :=
  item.msgType = some .publish ∧ 0 < item.msgQos

/-- What never changes of an item. -/
structure OutboxItem.Same (a b : OutboxItem) : Prop where
  handle : b.handle = a.handle
  msgId : b.msgId = a.msgId
  msgType : b.msgType = a.msgType
  msgQos : b.msgQos = a.msgQos

theorem OutboxItem.Same.refl (a : OutboxItem) : a.Same a := ⟨rfl, rfl, rfl, rfl⟩

theorem OutboxItem.Same.important {a b : OutboxItem} (h : a.Same b) :
    b.Important ↔ a.Important := by
  rw [OutboxItem.Important, OutboxItem.Important, h.msgType, h.msgQos]

/-- All of an item went out. -/
def Write.Completes (w : Write) (handle : Nat) : Prop :=
  w.ok = true ∧ ∃ item, w.item = some item ∧ item.handle = handle

/-- What may become of an item, with a write or without one. -/
structure Touches (fresh : Prop) (w : Option Write) (item item' : OutboxItem) : Prop where
  same : item.Same item'
  queued : fresh → item.Important → item'.pending = .queued →
    item.pending = .queued ∧ getDup item'.data = getDup item.data ∧
      ∀ w' ∈ w, ¬ w'.Completes item.handle
  transmitted : fresh → item.Important → item'.pending = .transmitted →
    item.pending = .transmitted ∨ ∃ w' ∈ w, w'.Completes item.handle

/-- A write is for an item of the outbox, and has the flag of a duplicate if the item was
transmitted. -/
def WriteFor (fresh : Prop) (outbox : Outbox) (w : Write) : Prop :=
  ∀ item, w.item = some item → ∃ item₀ ∈ outbox, item₀.Same item ∧
    (fresh → item₀.Important → w.bytes ≠ [] →
      (item₀.pending = .queued ∧ getDup w.bytes = getDup item₀.data) ∨
        (item₀.pending = .transmitted ∧ getDup w.bytes = 1))

/-- A new item, with an identifier of its own. -/
structure NewItem (outbox : Outbox) (item : OutboxItem) : Prop where
  pending : item.pending = .queued
  data : item.Important → getDup item.data = 0
  named : item.Important → item.msgId ≠ 0
  unused : item.msgId ≠ 0 → ∀ other ∈ outbox, other.msgId ≠ item.msgId

/-- What is done first: an item is accepted, with the identifier that was drawn, or none is. -/
inductive Intake (fresh : Prop) (drawn : Option Nat) (s : Store) : Store → Prop
  | none : Intake fresh drawn s s
  | accept (item : OutboxItem) (memory : Bool) (hHandle : item.handle = s.nextHandle)
      (hDrawn : item.msgId ≠ 0 → drawn = some item.msgId)
      (hNew : fresh → NewItem s.outbox item) : Intake fresh drawn s (s.accept item memory)

/-- The moves; `ack` is what an incoming message acknowledges. -/
inductive Move (fresh : Prop) (ack : Option (MessageType × Nat)) (s : Store) : Store → Prop
  | touch (w : Option Write) (outbox : Outbox)
      (hTouches : List.Forall₂ (Touches fresh w) s.outbox outbox)
      (hWrite : ∀ w' ∈ w, WriteFor fresh s.outbox w') :
      Move fresh ack s { s with outbox := outbox, writes := s.writes ++ w.toList }
  | acknowledge (msgType : MessageType) (msgId : Nat) (s' : Store)
      (hAck : ack = some (msgType, msgId)) (h : s.acknowledge msgType msgId = some s') :
      Move fresh ack s s'
  | deleteExpired (now : Nat) : Move fresh ack s (s.deleteExpired now)
  | hand (item : OutboxItem) : Move fresh ack s (s.hand item)
  | clear : Move fresh ack s s.clear

abbrev Moves (fresh : Prop) (ack : Option (MessageType × Nat)) : Store → Store → Prop :=
  Relation.ReflTransGen (Move fresh ack)

variable {fresh : Prop} {ack : Option (MessageType × Nat)} {w : Option Write} {s s' : Store}

/-! ## Stores whose items can be told apart -/

structure Store.Wellformed (fresh : Prop) (s : Store) : Prop where
  handles : (s.outbox.map OutboxItem.handle).Nodup
  bound : ∀ item ∈ s.outbox, item.handle < s.nextHandle
  ids : fresh → s.outbox.Pairwise fun a b => a.msgId = b.msgId → a.msgId = 0
  named : fresh → ∀ item ∈ s.outbox, item.Important → item.msgId ≠ 0

theorem touches_map {β : Type} (g : OutboxItem → β) (hg : ∀ a b : OutboxItem, a.Same b → g b = g a)
    {before after : Outbox} (h : List.Forall₂ (Touches fresh w) before after) :
    after.map g = before.map g := by
  rw [← List.forall₂_eq_eq_eq, List.forall₂_map_left_iff, List.forall₂_map_right_iff]
  exact h.flip.imp fun b a hab => hg a b hab.same

theorem touches_back {before after : Outbox} (h : List.Forall₂ (Touches fresh w) before after)
    {item : OutboxItem} (hItem : item ∈ after) : ∃ old ∈ before, Touches fresh w old item := by
  obtain ⟨i, hi, rfl⟩ := List.getElem_of_mem hItem
  have hLength := h.length_eq
  exact ⟨before[i], List.getElem_mem _, h.get (by omega) hi⟩

namespace Store.Wellformed

variable {a b : OutboxItem}

theorem same_handle (h : s.Wellformed fresh) (ha : a ∈ s.outbox) (hb : b ∈ s.outbox)
    (hHandle : a.handle = b.handle) : a = b :=
  List.inj_on_of_nodup_map h.handles ha hb hHandle

theorem same_id (h : s.Wellformed fresh) (hFresh : fresh) (ha : a ∈ s.outbox)
    (hb : b ∈ s.outbox) (hId : a.msgId = b.msgId) (hZero : a.msgId ≠ 0) : a = b := by
  by_contra hNe
  have : Std.Symm fun a b : OutboxItem => a.msgId = b.msgId → a.msgId = 0 :=
    ⟨fun a b hab hba => by rw [hba]; exact hab hba.symm⟩
  exact hZero ((h.ids hFresh).forall ha hb hNe hId)

theorem of_sublist (h : s.Wellformed fresh) (hOutbox : s'.outbox.Sublist s.outbox)
    (hNext : s.nextHandle ≤ s'.nextHandle) : s'.Wellformed fresh where
  handles := h.handles.sublist (hOutbox.map _)
  bound := fun item hItem => (h.bound item (hOutbox.subset hItem)).trans_le hNext
  ids := fun hFresh => (h.ids hFresh).sublist hOutbox
  named := fun hFresh item hItem => h.named hFresh item (hOutbox.subset hItem)

theorem of_touches (h : s.Wellformed fresh) {outbox : Outbox}
    (hTouches : List.Forall₂ (Touches fresh w) s.outbox outbox) (writes : List Write) :
    Wellformed fresh { s with outbox := outbox, writes := writes } := by
  have hHandles := touches_map OutboxItem.handle (fun a b hab => hab.handle) hTouches
  refine ⟨hHandles ▸ h.handles, ?_, ?_, ?_⟩
  · intro item hItem
    obtain ⟨old, hOld, hTouch⟩ := touches_back hTouches hItem
    rw [hTouch.same.handle]
    exact h.bound old hOld
  · intro hFresh
    have hIds := touches_map OutboxItem.msgId (fun a b hab => hab.msgId) hTouches
    have hPairs : (s.outbox.map OutboxItem.msgId).Pairwise fun a b => a = b → a = 0 :=
      List.pairwise_map.mpr (h.ids hFresh)
    rw [← hIds] at hPairs
    exact List.pairwise_map.mp hPairs
  · intro hFresh item hItem hImportant
    obtain ⟨old, hOld, hTouch⟩ := touches_back hTouches hItem
    rw [hTouch.same.msgId]
    exact h.named hFresh old hOld (hTouch.same.important.mp hImportant)

end Store.Wellformed

theorem acknowledge_cases {msgType : MessageType} {msgId : Nat}
    (h : s.acknowledge msgType msgId = some s') : 0 < s.pendingMsgCount ∧
      ∃ before item after, s.outbox = before ++ item :: after ∧ item.msgId = msgId ∧
        item.msgType = some msgType ∧ s' = { s with
          outbox := before ++ after
          pendingMsgCount := s.pendingMsgCount - 1
          acknowledged := s.acknowledged ++ [item.handle] } := by
  rw [Store.acknowledge] at h
  split at h
  · cases h
  · obtain ⟨⟨item, outbox⟩, hTake, rfl⟩ := Option.map_eq_some_iff.mp h
    obtain ⟨before, after, hOutbox, rfl, hItem, -⟩ := takeFirst_some hTake
    obtain ⟨hId, hType⟩ := of_decide_eq_true hItem
    exact ⟨Nat.pos_of_ne_zero ‹_›, before, item, after, hOutbox, hId, hType, rfl⟩

theorem hand_cases (s : Store) (item : OutboxItem) : s.hand item = s ∨
    ∃ before found after, s.outbox = before ++ found :: after ∧ found.handle = item.handle ∧
      s.hand item = { s with
        outbox := before ++ after
        handed := s.handed ++ [found.handle] } := by
  rw [Store.hand]
  split
  · exact Or.inl rfl
  · rename_i found outbox hTake
    obtain ⟨before, after, hOutbox, rfl, hItem, -⟩ := takeFirst_some hTake
    exact Or.inr ⟨before, found, after, hOutbox, of_decide_eq_true hItem, rfl⟩

theorem Intake.wellformed {drawn : Option Nat} (h : Intake fresh drawn s s')
    (hWf : s.Wellformed fresh) : s'.Wellformed fresh := by
  cases h with
  | none => exact hWf
  | accept item memory hHandle _ hNew =>
    rw [Store.accept]
    split
    · constructor
      · rw [List.map_append, List.nodup_append]
        refine ⟨hWf.handles, List.nodup_singleton _, ?_⟩
        intro handle hOld _ hNewHandle
        obtain ⟨other, hOther, rfl⟩ := List.mem_map.mp hOld
        have hLess := hWf.bound other hOther
        rw [List.map_singleton, List.mem_singleton] at hNewHandle
        omega
      · intro other hOther
        rcases List.mem_append.mp hOther with hOld | hLast
        · exact (hWf.bound other hOld).trans (Nat.lt_succ_self _)
        · rw [List.mem_singleton.mp hLast, hHandle]
          exact Nat.lt_succ_self _
      · intro hFresh
        rw [List.pairwise_append]
        refine ⟨hWf.ids hFresh, List.pairwise_singleton _ _, ?_⟩
        intro other hOther _ hLast hId
        rw [List.mem_singleton.mp hLast] at hId
        by_contra hZero
        exact (hNew hFresh).unused (hId ▸ hZero) other hOther hId
      · intro hFresh other hOther hImportant
        rcases List.mem_append.mp hOther with hOld | hLast
        · exact hWf.named hFresh other hOld hImportant
        · rw [List.mem_singleton.mp hLast] at hImportant ⊢
          exact (hNew hFresh).named hImportant
    · exact hWf.of_sublist (List.Sublist.refl _) le_rfl

theorem Move.wellformed (h : Move fresh ack s s') (hWf : s.Wellformed fresh) :
    s'.Wellformed fresh := by
  cases h with
  | touch w outbox hTouches _ => exact hWf.of_touches hTouches _
  | acknowledge msgType msgId _ _ h =>
    obtain ⟨-, before, item, after, hOutbox, -, -, rfl⟩ := acknowledge_cases h
    refine hWf.of_sublist ?_ le_rfl
    rw [hOutbox]
    exact (List.sublist_cons_self _ _).append_left before
  | deleteExpired now => exact hWf.of_sublist List.filter_sublist le_rfl
  | hand item =>
    rcases hand_cases s item with hSame | ⟨before, found, after, hOutbox, -, hEq⟩
    · rwa [hSame]
    · rw [hEq]
      refine hWf.of_sublist ?_ le_rfl
      rw [hOutbox]
      exact (List.sublist_cons_self _ _).append_left before
  | clear => exact hWf.of_sublist (List.nil_sublist _) le_rfl

theorem Moves.wellformed (h : Moves fresh ack s s') (hWf : s.Wellformed fresh) :
    s'.Wellformed fresh := by
  induction h with
  | refl => exact hWf
  | tail _ hMove ih => exact hMove.wellformed ih

/-! ## Moves that touch items -/

theorem Touches.unchanged {item : OutboxItem} (h : ∀ w' ∈ w, ¬ w'.Completes item.handle) :
    Touches fresh w item item :=
  ⟨.refl item, fun _ _ hPending => ⟨hPending, rfl, h⟩, fun _ _ hPending => Or.inl hPending⟩

theorem not_completes_of_none {w : Write} (h : w.item = none) (handle : Nat) :
    ¬ w.Completes handle := by
  rintro ⟨-, item, hItem, -⟩
  rw [h] at hItem
  cases hItem

theorem forall₂_updateFirst {R : OutboxItem → OutboxItem → Prop} {p : OutboxItem → Bool}
    {f : OutboxItem → OutboxItem} {outbox : Outbox}
    (hSame : ∀ item ∈ outbox, ¬ p item → R item item)
    (hLater : outbox.Pairwise fun a b => p a → p b → R b b)
    (hUpdate : ∀ item ∈ outbox, p item → R item (f item)) :
    List.Forall₂ R outbox (updateFirst p f outbox) := by
  induction outbox with
  | nil => exact .nil
  | cons item rest ih =>
    obtain ⟨hItem, hRest⟩ := List.forall_mem_cons.mp hSame
    obtain ⟨hItem', hRest'⟩ := List.forall_mem_cons.mp hUpdate
    obtain ⟨hFirst, hLater⟩ := List.pairwise_cons.mp hLater
    rw [updateFirst]
    split
    · refine .cons (hItem' ‹_›) (List.forall₂_same.mpr fun other hOther => ?_)
      by_cases hp : p other
      · exact hFirst other hOther ‹_› hp
      · exact hRest other hOther hp
    · exact .cons (hItem ‹_›) (ih hRest hLater hRest')

/-- A write that is for no item that matters is a move of its own. -/
theorem Move.write (w : Write) (hWrite : WriteFor fresh s.outbox w)
    (hRest : fresh → ∀ item ∈ s.outbox, item.Important → item.pending = .queued →
      ¬ w.Completes item.handle) :
    Move fresh ack s (s.log w) := by
  refine .touch (some w) s.outbox (List.forall₂_same.mpr fun item hItem => ?_) ?_
  · refine ⟨.refl item, fun hFresh hImportant hPending => ⟨hPending, rfl, ?_⟩,
      fun _ _ hPending => Or.inl hPending⟩
    intro w' hw'
    cases hw'
    exact hRest hFresh item hItem hImportant hPending
  · intro w' hw'
    cases hw'
    exact hWrite

theorem Move.write_none {w : Write} (h : w.item = none) : Move fresh ack s (s.log w) := by
  refine .write w ?_ fun _ item _ _ _ => not_completes_of_none h item.handle
  intro item hItem
  rw [h] at hItem
  cases hItem

/-- The items other than the first that has an identifier do not matter. -/
theorem later_unimportant (hWf : s.Wellformed fresh) (id : Nat) :
    s.outbox.Pairwise fun a b => a.msgId = id → b.msgId = id → fresh → ¬ b.Important := by
  by_cases hFresh : fresh
  · refine (hWf.ids hFresh).imp_of_mem ?_
    intro a b _ hb hab haId hbId _ hImportant
    have hZero := hab (haId.trans hbId.symm)
    exact hWf.named hFresh b hb hImportant (hbId.trans (haId.symm.trans hZero))
  · exact List.pairwise_of_forall fun _ _ _ _ h => absurd h hFresh

/-- A write and the change of the item that has its identifier. -/
theorem Move.setPending (hWf : s.Wellformed fresh) (w : Option Write) (id : Nat)
    {pending : Pending} (hMoved : pending ≠ .queued) (hWrite : ∀ w' ∈ w, WriteFor fresh s.outbox w')
    (hHit : fresh → pending = .transmitted → ∀ item ∈ s.outbox, item.Important →
      item.msgId = id → item.pending = .transmitted ∨ ∃ w' ∈ w, w'.Completes item.handle)
    (hRest : fresh → ∀ item ∈ s.outbox, item.Important → item.msgId ≠ id →
      ∀ w' ∈ w, ¬ w'.Completes item.handle) :
    Move fresh ack s { s with
      outbox := outboxSetPending s.outbox id pending, writes := s.writes ++ w.toList } := by
  refine .touch w _ (forall₂_updateFirst ?_ ?_ ?_) hWrite
  · intro item hItem hOther
    have hId : item.msgId ≠ id := fun h => hOther (decide_eq_true h)
    exact ⟨.refl item,
      fun hFresh hImportant hPending => ⟨hPending, rfl, hRest hFresh item hItem hImportant hId⟩,
      fun _ _ hPending => Or.inl hPending⟩
  · refine (later_unimportant hWf id).imp ?_
    intro a b hab ha hb
    have hNone := hab (of_decide_eq_true ha) (of_decide_eq_true hb)
    exact ⟨.refl b, fun hFresh hImportant _ => absurd hImportant (hNone hFresh),
      fun hFresh hImportant _ => absurd hImportant (hNone hFresh)⟩
  · intro item hItem hId
    exact ⟨⟨rfl, rfl, rfl, rfl⟩, fun _ _ hPending => absurd hPending hMoved,
      fun hFresh hImportant hPending =>
        hHit hFresh hPending item hItem hImportant (of_decide_eq_true hId)⟩

theorem Move.setUnimportant (hWf : s.Wellformed fresh) (id : Nat) {pending : Pending}
    (hMoved : pending ≠ .queued)
    (hHit : fresh → ∀ item ∈ s.outbox, item.Important → item.msgId = id →
      pending = .transmitted → False) :
    Move fresh ack s (s.setPending id pending) := by
  have hMove : Move fresh ack s { s with
      outbox := outboxSetPending s.outbox id pending, writes := s.writes ++ [] } :=
    .setPending hWf none id hMoved nofun
      (fun hFresh hPending item hItem hImportant hId =>
        (hHit hFresh item hItem hImportant hId hPending).elim) nofun
  rwa [List.append_nil] at hMove

/-- An item is marked as transmitted where it was written. -/
theorem Move.transmit (hWf : s.Wellformed fresh) {item : OutboxItem} (hItem : item ∈ s.outbox)
    {w : Write} (hFor : w.item.map OutboxItem.handle = some item.handle)
    (hSent : fresh → item.Important → w.ok = true) (hWrite : WriteFor fresh s.outbox w) :
    Move fresh ack s { s with
      outbox := outboxSetPending s.outbox item.msgId .transmitted, writes := s.writes ++ [w] } := by
  obtain ⟨sent, hSome, hHandle⟩ := Option.map_eq_some_iff.mp hFor
  refine .setPending hWf (some w) item.msgId nofun ?_ ?_ ?_
  · intro w' hw'
    cases hw'
    exact hWrite
  · intro hFresh _ other hOther hImportant hId
    have hEq := hWf.same_id hFresh hOther hItem hId (hWf.named hFresh other hOther hImportant)
    subst hEq
    exact Or.inr ⟨w, rfl, hSent hFresh hImportant, sent, hSome, hHandle⟩
  · rintro _ other hOther _ hId w' hw' ⟨-, item', hItem', hComplete⟩
    cases hw'
    rw [hSome] at hItem'
    cases hItem'
    have hEq := hWf.same_handle hOther hItem (hComplete.symm.trans hHandle)
    rw [hEq] at hId
    exact hId rfl

theorem Move.setTick (id tick : Nat) : Move fresh ack s (s.setTick id tick) := by
  have hNone : ∀ item : OutboxItem, Touches fresh none item item := fun item => .unchanged nofun
  have hMove : Move fresh ack s { s with
      outbox := outboxSetTick s.outbox id tick, writes := s.writes ++ [] } := by
    refine .touch none _ (forall₂_updateFirst (fun item _ _ => hNone item) ?_ ?_) nofun
    · exact List.pairwise_of_forall fun _ b _ _ => hNone b
    · exact fun item _ _ => ⟨⟨rfl, rfl, rfl, rfl⟩, fun _ _ hPending => ⟨hPending, rfl, nofun⟩,
        fun _ _ hPending => Or.inl hPending⟩
  rwa [List.append_nil] at hMove

/-- The data of an item may be changed where the item is not waiting for its first write. -/
theorem Move.setData (hWf : s.Wellformed fresh) {item : OutboxItem} (hItem : item ∈ s.outbox)
    {data : List UInt8} (hData : item.Important → item.pending = .queued → data = item.data) :
    Move fresh ack s (s.setData item data) := by
  have hNone : ∀ item : OutboxItem, Touches fresh none item item := fun item => .unchanged nofun
  have hMove : Move fresh ack s { s with
      outbox := (s.setData item data).outbox, writes := s.writes ++ [] } := by
    refine .touch none _ (forall₂_updateFirst (fun item _ _ => hNone item) ?_ ?_) nofun
    · exact List.pairwise_of_forall fun _ b _ _ => hNone b
    · intro other hOther hHandle
      have hEq := hWf.same_handle hOther hItem (of_decide_eq_true hHandle)
      subst hEq
      refine ⟨⟨rfl, rfl, rfl, rfl⟩, fun _ hImportant hPending => ⟨hPending, ?_, nofun⟩,
        fun _ _ hPending => Or.inl hPending⟩
      rw [hData hImportant hPending]
  rwa [List.append_nil] at hMove

end FcomGateway.Mqtt
